import Livox.Sdk.Api
import Livox.Sdk.Upgrade.Firmware

namespace livox_lidar

def kCommandIDLidarRebootDevice : UInt16 := 0x0200
def kCommandIDGeneralRequestUpgrade : UInt16 := 0x0400
def kCommandIDGeneralXferFirmware : UInt16 := 0x0401
def kCommandIDGeneralCompleteXferFirmware : UInt16 := 0x0402
def kCommandIDGeneralRequestUpgradeProgress : UInt16 := 0x0403

def EraseFirmware : UInt8 := 0x34

inductive LivoxLidarFsmState where
  | kLivoxLidarUpgradeIdle
  | kLivoxLidarUpgradeRequest
  | kLivoxLidarUpgradeXferFirmware
  | kLivoxLidarUpgradeCompleteXferFirmware
  | kLivoxLidarUpgradeGetUpgradeProgress
  | kLivoxLidarUpgradeComplete
  | kLivoxLidarUpgradeTimeout
  | kLivoxLidarUpgradeErr
  | kLivoxLidarUpgradeUndef
  deriving DecidableEq, Repr

inductive LivoxLidarFsmEvent where
  | kLivoxLidarEventRequestUpgrade
  | kLivoxLidarEventXferFirmware
  | kLivoxLidarEventCompleteXferFirmware
  | kLivoxLidarEventGetUpgradeProgress
  | kLivoxLidarEventComplete
  | kLivoxLidarEventReinit
  | kLivoxLidarEventTimeout
  | kLivoxLidarEventErr
  | kLivoxLidarEventUndef
  deriving DecidableEq, Repr

/-- The state with the number of an event: both count from 0. -/
def LivoxLidarFsmEvent.as_state : LivoxLidarFsmEvent → LivoxLidarFsmState
  | kLivoxLidarEventRequestUpgrade => .kLivoxLidarUpgradeIdle
  | kLivoxLidarEventXferFirmware => .kLivoxLidarUpgradeRequest
  | kLivoxLidarEventCompleteXferFirmware => .kLivoxLidarUpgradeXferFirmware
  | kLivoxLidarEventGetUpgradeProgress => .kLivoxLidarUpgradeCompleteXferFirmware
  | kLivoxLidarEventComplete => .kLivoxLidarUpgradeGetUpgradeProgress
  | kLivoxLidarEventReinit => .kLivoxLidarUpgradeComplete
  | kLivoxLidarEventTimeout => .kLivoxLidarUpgradeTimeout
  | kLivoxLidarEventErr => .kLivoxLidarUpgradeErr
  | kLivoxLidarEventUndef => .kLivoxLidarUpgradeUndef

structure LivoxLidarUpgradeState where
  state : LivoxLidarFsmEvent
  progress : UInt8
  deriving DecidableEq, Repr

structure LivoxLidarStartUpgradeRequest where
  firmware_type : UInt8
  encrypt_type : UInt8
  firmware_length : UInt32
  dev_type : UInt8
  deriving DecidableEq

structure LivoxLidarStartUpgradeRequestV3 extends LivoxLidarStartUpgradeRequest where
  firmware_version : UInt32
  firmware_buildtime : UInt64
  hw_whitelist : List UInt8
  deriving DecidableEq

structure LivoxLidarXferFirmwareResquest where
  offset : UInt32
  length : UInt32
  encrypt_type : UInt8
  data : List UInt8
  deriving DecidableEq

structure LivoxLidarCompleteXferFirmwareResquest where
  checksum_type : UInt8
  checksum_length : UInt8
  checksum : List UInt8
  deriving DecidableEq

structure LivoxLidarRebootRequest where
  timeout : UInt16
  deriving DecidableEq

/-- The requests of an upgrade, one for each function of `CommandImpl` that it calls; that
to start comes in two layouts. -/
inductive Request where
  | livox_lidar_start_upgrade (request : LivoxLidarStartUpgradeRequest)
  | livox_lidar_start_upgrade_v3 (request : LivoxLidarStartUpgradeRequestV3)
  | livox_lidar_xfer_firmware (request : LivoxLidarXferFirmwareResquest)
  | livox_lidar_complete_xfer_firmware (request : LivoxLidarCompleteXferFirmwareResquest)
  | livox_lidar_get_upgrade_progress
  | livox_lidar_request_reboot (request : LivoxLidarRebootRequest)
  deriving DecidableEq

def Request.command_id : Request → UInt16
  | livox_lidar_start_upgrade _ | livox_lidar_start_upgrade_v3 _ =>
    kCommandIDGeneralRequestUpgrade
  | livox_lidar_xfer_firmware _ => kCommandIDGeneralXferFirmware
  | livox_lidar_complete_xfer_firmware _ => kCommandIDGeneralCompleteXferFirmware
  | livox_lidar_get_upgrade_progress => kCommandIDGeneralRequestUpgradeProgress
  | livox_lidar_request_reboot _ => kCommandIDLidarRebootDevice

/-- What the response handlers look at of a response: each has a return code, that to a
request for the progress also the progress. -/
structure Response where
  ret_code : UInt8
  progress : UInt8
  deriving DecidableEq, Repr

/-- The upgrader without its observer and its thread. -/
structure LivoxLidarUpgrader where
  firmware : Firmware
  read_offset : UInt32
  read_length : UInt32
  handle : UInt32
  fsm_state : LivoxLidarFsmState
  upgrade_error : UInt32
  progress : UInt8
  try_count : UInt32

/-- An event handler of the table. -/
inductive FnFsmEvent where
  | start_upgrade
  | xfer_firmware
  | complete_xfer_firmware
  | get_upgrade_progress
  | upgrade_complete
  deriving DecidableEq, Repr

structure FsmEventTable where
  state : LivoxLidarFsmState
  event : LivoxLidarFsmEvent
  event_handler : Option FnFsmEvent
  next_state : LivoxLidarFsmState

def upgrade_event_table : List FsmEventTable :=
  [⟨.kLivoxLidarUpgradeIdle, .kLivoxLidarEventRequestUpgrade, some .start_upgrade,
      .kLivoxLidarUpgradeRequest⟩,
    ⟨.kLivoxLidarUpgradeRequest, .kLivoxLidarEventRequestUpgrade, some .start_upgrade,
      .kLivoxLidarUpgradeRequest⟩,
    ⟨.kLivoxLidarUpgradeRequest, .kLivoxLidarEventXferFirmware, some .xfer_firmware,
      .kLivoxLidarUpgradeXferFirmware⟩,
    ⟨.kLivoxLidarUpgradeXferFirmware, .kLivoxLidarEventXferFirmware, some .xfer_firmware,
      .kLivoxLidarUpgradeXferFirmware⟩,
    ⟨.kLivoxLidarUpgradeXferFirmware, .kLivoxLidarEventCompleteXferFirmware,
      some .complete_xfer_firmware, .kLivoxLidarUpgradeCompleteXferFirmware⟩,
    ⟨.kLivoxLidarUpgradeCompleteXferFirmware, .kLivoxLidarEventCompleteXferFirmware,
      some .complete_xfer_firmware, .kLivoxLidarUpgradeCompleteXferFirmware⟩,
    ⟨.kLivoxLidarUpgradeCompleteXferFirmware, .kLivoxLidarEventGetUpgradeProgress,
      some .get_upgrade_progress, .kLivoxLidarUpgradeGetUpgradeProgress⟩,
    ⟨.kLivoxLidarUpgradeGetUpgradeProgress, .kLivoxLidarEventGetUpgradeProgress,
      some .get_upgrade_progress, .kLivoxLidarUpgradeGetUpgradeProgress⟩,
    ⟨.kLivoxLidarUpgradeGetUpgradeProgress, .kLivoxLidarEventComplete, some .upgrade_complete,
      .kLivoxLidarUpgradeComplete⟩,
    ⟨.kLivoxLidarUpgradeComplete, .kLivoxLidarEventComplete, some .upgrade_complete,
      .kLivoxLidarUpgradeComplete⟩,
    ⟨.kLivoxLidarUpgradeComplete, .kLivoxLidarEventReinit, none, .kLivoxLidarUpgradeIdle⟩]

/-- What an event leaves: the upgrader, the request that is made, if one is, and what the
observer is told. -/
structure Outcome where
  upgrader : LivoxLidarUpgrader
  request : Option Request
  observed : LivoxLidarUpgradeState

namespace LivoxLidarUpgrader

/-- The upgrader of a firmware as it is constructed. -/
def construct (firmware : Firmware) (handle : UInt32) : LivoxLidarUpgrader where
  firmware
  read_offset := 0
  read_length := 1024
  handle
  fsm_state := .kLivoxLidarUpgradeIdle
  upgrade_error := 0
  progress := 0
  try_count := 0

def IsUpgradeComplete (u : LivoxLidarUpgrader) : Prop := u.fsm_state = .kLivoxLidarUpgradeIdle

def IsUpgradeError (u : LivoxLidarUpgrader) : Prop :=
  u.fsm_state = .kLivoxLidarUpgradeTimeout ∨ u.fsm_state = .kLivoxLidarUpgradeErr

instance (u : LivoxLidarUpgrader) : Decidable u.IsUpgradeComplete :=
  inferInstanceAs (Decidable (_ = _))

instance (u : LivoxLidarUpgrader) : Decidable u.IsUpgradeError :=
  inferInstanceAs (Decidable (_ ∨ _))

/-- The request that `StartUpgrade` makes. -/
def start_upgrade_request (u : LivoxLidarUpgrader) : Request :=
  let header := u.firmware.header
  let request : LivoxLidarStartUpgradeRequest :=
    { firmware_type := header.firmware_type
      encrypt_type := header.encrypt_type
      firmware_length := header.firmware_length
      dev_type := header.device_type }
  if kEnlFileVersionV3 = u.firmware.firmware_package_version then
    .livox_lidar_start_upgrade_v3
      { request with
        firmware_version := header.firmware_version
        firmware_buildtime := header.modify_time
        hw_whitelist := header.hw_whitelist.toList.take 32 }
  else .livox_lidar_start_upgrade request

def start_upgrade (u : LivoxLidarUpgrader) : LivoxLidarUpgrader × Option Request :=
  ({ u with read_offset := 0, upgrade_error := 0, progress := 0 }, some u.start_upgrade_request)

/-- The request that `XferFirmware` makes, for an offset before the end of the firmware. -/
def xfer_firmware_request (u : LivoxLidarUpgrader) : LivoxLidarXferFirmwareResquest :=
  let rest := u.firmware.header.firmware_length - u.read_offset
  let read_length := if u.read_length > rest then rest else u.read_length
  { offset := u.read_offset
    length := read_length
    encrypt_type := u.firmware.header.encrypt_type
    data := (u.firmware.data.drop u.read_offset.toNat).take read_length.toNat }

def xfer_firmware (u : LivoxLidarUpgrader) : LivoxLidarUpgrader × Option Request :=
  if u.read_offset < u.firmware.header.firmware_length then
    (u, some (.livox_lidar_xfer_firmware u.xfer_firmware_request))
  else (u, none)

/-- The request that `CompleteXferFirmware` makes. The length of the checksum is cut to its
low byte; what a checksum of more than 128 bytes reads behind its array is the white list. -/
def complete_xfer_firmware_request (u : LivoxLidarUpgrader) :
    LivoxLidarCompleteXferFirmwareResquest :=
  let header := u.firmware.header
  { checksum_type := header.checksum_type
    checksum_length := header.checksum_length.toUInt8
    checksum :=
      (header.checksum.toList ++ header.hw_whitelist.toList).take
        header.checksum_length.toUInt8.toNat }

def complete_xfer_firmware (u : LivoxLidarUpgrader) : LivoxLidarUpgrader × Option Request :=
  (u, some (.livox_lidar_complete_xfer_firmware u.complete_xfer_firmware_request))

def get_upgrade_progress (u : LivoxLidarUpgrader) : LivoxLidarUpgrader × Option Request :=
  (u, some .livox_lidar_get_upgrade_progress)

def upgrade_complete (u : LivoxLidarUpgrader) : LivoxLidarUpgrader × Option Request :=
  (u, some (.livox_lidar_request_reboot { timeout := 100 }))

/-- Call an event handler of the table. -/
def call (u : LivoxLidarUpgrader) : Option FnFsmEvent → LivoxLidarUpgrader × Option Request
  | none => (u, none)
  | some .start_upgrade => u.start_upgrade
  | some .xfer_firmware => u.xfer_firmware
  | some .complete_xfer_firmware => u.complete_xfer_firmware
  | some .get_upgrade_progress => u.get_upgrade_progress
  | some .upgrade_complete => u.upgrade_complete

def livox_lidar_fsm_state_change (u : LivoxLidarUpgrader) (event : LivoxLidarFsmEvent) :
    LivoxLidarUpgrader :=
  if event ≠ .kLivoxLidarEventUndef then { u with fsm_state := event.as_state } else u

def fsm_event_handler (u : LivoxLidarUpgrader) (event : LivoxLidarFsmEvent) (progress : UInt8) :
    Outcome :=
  let u :=
    if event = .kLivoxLidarEventTimeout ∨ event = .kLivoxLidarEventErr then
      u.livox_lidar_fsm_state_change event
    else u
  match upgrade_event_table.find? fun row => u.fsm_state = row.state ∧ event = row.event with
  | none => { upgrader := u, request := none, observed := ⟨event, progress⟩ }
  | some row =>
    let (u, request) := { u with fsm_state := row.next_state }.call row.event_handler
    { upgrader := u, request, observed := ⟨event, progress⟩ }

/-- What the response handlers have in common: a success resets the counter and goes on, and
another status counts against the limit, below which the request is made once more. -/
def response_handler (u : LivoxLidarUpgrader) (status : LivoxLidarStatus) (limit : UInt32)
    (again : LivoxLidarFsmEvent) (progress : UInt8) (give_up : LivoxLidarFsmEvent)
    (success : LivoxLidarUpgrader → Outcome) : Outcome :=
  if status = .kLivoxLidarStatusSuccess then success { u with try_count := 0 }
  else
    let u := { u with try_count := u.try_count + 1 }
    if u.try_count < limit then u.fsm_event_handler again progress
    else { u with try_count := 0 }.fsm_event_handler give_up 100

def start_upgrade_response_handler (u : LivoxLidarUpgrader) (status : LivoxLidarStatus)
    (response : Response) : Outcome :=
  u.response_handler status kGeneralTryCountLimit .kLivoxLidarEventRequestUpgrade 10
    .kLivoxLidarEventErr fun u =>
      if response.ret_code ≠ 0 then
        if response.ret_code = kSystemIsNotReady then
          u.fsm_event_handler .kLivoxLidarEventRequestUpgrade 10
        else if response.ret_code = EraseFirmware then
          u.fsm_event_handler .kLivoxLidarEventRequestUpgrade 10
        else u.fsm_event_handler .kLivoxLidarEventErr 100
      else u.fsm_event_handler .kLivoxLidarEventXferFirmware 20

def xfer_firmware_response_handler (u : LivoxLidarUpgrader) (status : LivoxLidarStatus)
    (response : Response) : Outcome :=
  u.response_handler status kGeneralTryCountLimit .kLivoxLidarEventXferFirmware 20
    .kLivoxLidarEventErr fun u =>
      if response.ret_code ≠ 0 then u.fsm_event_handler .kLivoxLidarEventErr 100
      else
        let u := { u with read_offset := u.read_offset + u.read_length }
        if u.read_offset < u.firmware.header.firmware_length then
          u.fsm_event_handler .kLivoxLidarEventXferFirmware 20
        else u.fsm_event_handler .kLivoxLidarEventCompleteXferFirmware 40

def complete_xfer_firmware_response_handler (u : LivoxLidarUpgrader) (status : LivoxLidarStatus)
    (response : Response) : Outcome :=
  u.response_handler status kGeneralTryCountLimit .kLivoxLidarEventCompleteXferFirmware 50
    .kLivoxLidarEventErr fun u =>
      if response.ret_code ≠ 0 then u.fsm_event_handler .kLivoxLidarEventErr 100
      else u.fsm_event_handler .kLivoxLidarEventGetUpgradeProgress 50

def get_progress_response_handler (u : LivoxLidarUpgrader) (status : LivoxLidarStatus)
    (response : Response) : Outcome :=
  u.response_handler status kGetProcessTryCountLimit .kLivoxLidarEventGetUpgradeProgress
    (u.progress / 2 + 50) .kLivoxLidarEventErr fun u =>
      if response.ret_code ≠ 0 then u.fsm_event_handler .kLivoxLidarEventErr 100
      else if response.progress < 100 then
        u.fsm_event_handler .kLivoxLidarEventGetUpgradeProgress (response.progress / 2 + 50)
      else u.fsm_event_handler .kLivoxLidarEventComplete 100

def upgrade_complete_response_handler (u : LivoxLidarUpgrader) (status : LivoxLidarStatus)
    (response : Response) : Outcome :=
  u.response_handler status kGeneralTryCountLimit .kLivoxLidarEventComplete 100
    .kLivoxLidarEventReinit fun u =>
      if response.ret_code ≠ 0 then u.fsm_event_handler .kLivoxLidarEventErr 100
      else u.fsm_event_handler .kLivoxLidarEventReinit 100

/-- The callback that a request is made with. -/
def respond (u : LivoxLidarUpgrader) : Request → LivoxLidarStatus → Response → Outcome
  | .livox_lidar_start_upgrade _ | .livox_lidar_start_upgrade_v3 _ =>
    u.start_upgrade_response_handler
  | .livox_lidar_xfer_firmware _ => u.xfer_firmware_response_handler
  | .livox_lidar_complete_xfer_firmware _ => u.complete_xfer_firmware_response_handler
  | .livox_lidar_get_upgrade_progress => u.get_progress_response_handler
  | .livox_lidar_request_reboot _ => u.upgrade_complete_response_handler

end LivoxLidarUpgrader

end livox_lidar
