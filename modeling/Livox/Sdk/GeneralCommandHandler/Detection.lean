import Livox.Sdk.BuildRequest
import Livox.Sdk.GeneralCommandHandler.Commands
import Livox.Sdk.GeneralCommandHandler.Devices

open checked ordered_map

namespace livox_lidar

def kCommandIDLidarWorkModeControl : UInt16 := 0x0100
def kCommandIDLidarGetInternalInfo : UInt16 := 0x0101

namespace general_command_handler

/-- How the SDK has been initialized: for the viewer with the address of the host and no framework
configuration, or with configuration files, as the master SDK or not. -/
inductive SdkMode where
  | view (host_ip : List UInt8)
  | configured (master_sdk : Bool)
  deriving DecidableEq

def SdkMode.is_view : SdkMode → Bool
  | view _ => true
  | configured _ => false

/-- The framework configuration is read where there is none. -/
def null_framework_cfg : Fault := .nullField "sdk_framework_cfg_ptr_"

/-- `sdk_framework_cfg_ptr_->master_sdk`. -/
def SdkMode.master_sdk : SdkMode → Checked Bool
  | view _ => .error null_framework_cfg
  | configured master_sdk => .ok master_sdk

/-- The functions that the commands of the SDK itself are made with, and those of the user. -/
inductive CommandCallback where
  | query_fw_type_callback
  | update_lidar_callback (type : HandlerType)
  | user
  deriving DecidableEq, Repr

/-- The handle that a callback is called with. -/
def Callback.handle (call : Callback) : UInt32 :=
  match call.answer with
  | some (handle, _) => handle
  | none => call.command.handle

/-- The callbacks that have been called on the way from one state to another. -/
def State.new_calls (s t : State) : List Callback :=
  t.calls.take (t.calls.length - s.calls.length)

/-- The commands with the functions that were given with them, the callbacks of these that have been
called and not run yet, the devices, and those of the device manager and of the handlers. -/
structure Detection where
  mode : SdkMode
  general : State
  callbacks : Nat → CommandCallback
  returned : List Callback
  fw_types : FwTypes
  lidars_dev_type : Std.TreeMap UInt32 UInt8
  updated : List (HandlerType × UInt32)
  announced : List (UInt32 × LivoxLidarInfo)

/-- The handler receives the answer to a detection broadcast, and may have a configuration to send to
that lidar; something else happens to its commands; one of the callbacks is run. -/
inductive DetectionEvent where
  | handle_detection_data (handle : UInt32) (detection_data : DetectionData) (custom_lidar : Bool)
  | commands (e : Event)
  | query_fw_type_callback (call : Callback)
      (response : Option LivoxLidarDiagInternalInfoResponse)
  | update_lidar_callback (call : Callback) (type : HandlerType)
      (response : Option LivoxLidarAsyncControlResponse)

namespace Detection

/-- The state after `Init`, which creates the handlers of a configured SDK. -/
def start (mode : SdkMode) : Detection where
  mode
  general := State.start
    (if mode.is_view then []
    else [kLivoxLidarTypeIndustrialHAP, kLivoxLidarTypeMid360, kLivoxLidarTypeMid360s,
      kLivoxLidarTypeAvia2])
  callbacks := fun _ => .user
  returned := []
  fw_types := { devices := ∅, count := 0 }
  lidars_dev_type := ∅
  updated := []
  announced := []

def set_devices (s : Detection) (devices : Devices) : Detection :=
  { s with fw_types := { s.fw_types with devices } }

/-- A step of the commands. A command that it makes is made with this callback. -/
def run_commands (s : Detection) (e : Event) (callback : CommandCallback) : Checked Detection := do
  let general ← s.general.step e
  .ok
    { s with
      general
      callbacks := Function.update s.callbacks s.general.submitted.length callback
      returned := s.general.new_calls general ++ s.returned }

/-- `VerifyNetSegment`. An address that `std::stoi` throws on is not one of a host. -/
def verify_net_segment (mode : SdkMode) (detection_data : DetectionData) : Checked Bool :=
  match mode with
  | .configured _ => .ok true
  | .view host_ip =>
    if host_ip = [] then .ok false
    else
      match build_request.ip_to_u8 host_ip with
      | .ok host_ip_vec => .ok (host_ip_vec.take 3 = detection_data.lidar_ip.toList.take 3)
      | .error .refused => .ok false
      | .error _ => .error .precondition

/-- `CreateCommandHandler`: with a configuration the handler is initialized that `operator[]` finds,
and in the view it is created. -/
def create_command_handler (mode : SdkMode) (general : State) (dev_type : UInt8) : Checked State :=
  match mode with
  | .configured _ =>
    if dev_type = kLivoxLidarTypePA ∨ (handler_type dev_type).isSome then
      if dev_type ∈ general.lidars_command_handler then .ok general else .error .nullDereference
    else .ok general
  | .view _ =>
    if dev_type ∈ general.lidars_command_handler then .ok general
    else if (handler_type dev_type).isSome then
      .ok { general with lidars_command_handler := dev_type :: general.lidars_command_handler }
    else .ok general

def query_fw_type (s : Detection) (handle : UInt32) : Checked Detection :=
  s.run_commands (.send_command handle kCommandIDLidarGetInternalInfo) .query_fw_type_callback

def get_firmware_type (s : Detection) (handle : UInt32) (device_info : DeviceInfo) :
    Checked Detection := do
  let master_sdk ← s.mode.master_sdk
  if ¬ master_sdk then .ok s
  else if device_info.is_get_loader_mode then .ok s
  else s.query_fw_type handle

/-- `UpdateLidarCfg` of the handler for a type of device: the configuration is sent until the lidar
has taken it. -/
def update_lidar_cfg (s : Detection) (dev_type : UInt8) (handle : UInt32) (custom_lidar : Bool) :
    Checked Detection := do
  match s.general.get_lidar_command_handler dev_type with
  | none => .ok s
  | some type =>
    let master_sdk ← s.mode.master_sdk
    if ¬ master_sdk then .ok s
    else if (type, handle) ∈ s.updated then .ok s
    else if ¬ custom_lidar then .ok s
    else
      s.run_commands
        (.send_other_command handle kCommandIDLidarWorkModeControl [.add_command, .send_datagram])
        (.update_lidar_callback type)

def livox_lidar_info_change (s : Detection) (handle : UInt32) : Checked Detection := do
  let (devices, told) ← s.fw_types.devices.livox_lidar_info_change handle
  .ok { s.set_devices devices with announced := told.toList.map (handle, ·) ++ s.announced }

/-- `DeviceManager::HandleDetectionData`. -/
def device_manager_handle_detection_data (s : Detection) (handle : UInt32)
    (detection_data : DetectionData) (is_get_loader_mode is_load_mode : Bool) : Checked Detection :=
  if handle = 0 then .ok s
  else if s.mode.is_view then
    if is_get_loader_mode ∧ is_load_mode then s.livox_lidar_info_change handle else .ok s
  else
    match s.lidars_dev_type[handle]? with
    | some dev_type =>
      if dev_type ≠ detection_data.dev_type then .ok s
      else if is_get_loader_mode ∧ is_load_mode then s.livox_lidar_info_change handle
      else .ok s
    | none =>
      let s :=
        { s with lidars_dev_type := s.lidars_dev_type.insert handle detection_data.dev_type }
      if is_get_loader_mode ∧ is_load_mode then s.livox_lidar_info_change handle else .ok s

/-- A device that has been recorded before. -/
def detect_again (s : Detection) (handle : UInt32) (detection_data : DetectionData)
    (custom_lidar : Bool) (device_info : DeviceInfo) : Checked Detection := do
  let s ←
    if ¬ device_info.is_update_cfg ∧ device_info.is_get_loader_mode ∧
        ¬ device_info.is_loader_mode ∧ ¬ s.mode.is_view then
      s.update_lidar_cfg detection_data.dev_type handle custom_lidar
    else .ok s
  s.device_manager_handle_detection_data handle detection_data device_info.is_get_loader_mode
    device_info.is_loader_mode

/-- A device that is new. -/
def detect_first (s : Detection) (handle : UInt32) (detection_data : DetectionData) :
    Checked Detection := do
  let sn ← detection_data.sn_string
  let devices := s.fw_types.devices.record handle detection_data sn
  let device_dev_type := s.general.device_dev_type.insertIfNew handle detection_data.dev_type
  let s := { s.set_devices devices with general := { s.general with device_dev_type } }
  s.get_firmware_type handle (devices[handle]?.getD DeviceInfo.default)

def handle_detection_data (s : Detection) (handle : UInt32) (detection_data : DetectionData)
    (custom_lidar : Bool) : Checked Detection := do
  if detection_data.ret_code ≠ 0 then .ok s
  else
    let verified ← verify_net_segment s.mode detection_data
    if ¬ verified then .ok s
    else
      let general ← create_command_handler s.mode s.general detection_data.dev_type
      let s := { s with general }
      match s.fw_types.devices[handle]? with
      | some device_info => s.detect_again handle detection_data custom_lidar device_info
      | none => s.detect_first handle detection_data

/-- `QueryFwTypeCallback`, as it was called. -/
def query_fw_type_callback (s : Detection) (call : Callback)
    (response : Option LivoxLidarDiagInternalInfoResponse) : Checked Detection :=
  let (fw_types, again) := s.fw_types.query_fw_type_callback call.handle call.status response
  let s := { s with fw_types }
  if again then s.query_fw_type call.handle else .ok s

/-- `UpdateLidarCallback` of a handler. The one of the HAP announces the lidar also when it has not
taken the configuration. -/
def update_lidar_callback (s : Detection) (call : Callback) (type : HandlerType)
    (response : Option LivoxLidarAsyncControlResponse) : Checked Detection :=
  if call.status ≠ .kLivoxLidarStatusSuccess then .ok s
  else
    match response with
    | none => .ok s
    | some response =>
      if response.ret_code = 0 ∧ response.error_key = 0 then
        { s with updated := (type, call.handle) :: s.updated }.livox_lidar_info_change call.handle
      else if type = .hap then s.livox_lidar_info_change call.handle
      else .ok s

/-- One step. The detection of a device is no step of the commands alone, and a callback is run as
the function that it is. -/
def step (s : Detection) : DetectionEvent → Checked Detection
  | .handle_detection_data handle detection_data custom_lidar =>
    s.handle_detection_data handle detection_data custom_lidar
  | .commands (.detected _ _) => .error .precondition
  | .commands e => s.run_commands e .user
  | .query_fw_type_callback call response =>
    if call ∈ s.returned ∧ s.callbacks call.command.id = .query_fw_type_callback then
      { s with returned := s.returned.erase call }.query_fw_type_callback call response
    else .error .precondition
  | .update_lidar_callback call type response =>
    if call ∈ s.returned ∧ s.callbacks call.command.id = .update_lidar_callback type then
      { s with returned := s.returned.erase call }.update_lidar_callback call type response
    else .error .precondition

end Detection

end general_command_handler

end livox_lidar
