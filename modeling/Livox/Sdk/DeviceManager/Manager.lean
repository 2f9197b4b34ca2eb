import Livox.Sdk.DeviceManager.Channels

open checked memory

namespace livox_lidar

open util

namespace device_manager

/-- A datagram as `RecvFrom` returns it, with the address and the port of its sender. -/
structure Datagram where
  handle : UInt32
  port : UInt16
  buf : Pointer
  size : UInt32

/-- The text of the sender's address. -/
def Datagram.lidar_ip (datagram : Datagram) : List UInt8 :=
  ip_string (bytes 4 datagram.handle.toNat)

/-- A call that `OnData` makes to a handler. -/
inductive Handled where
  | debug_point_cloud (handle : UInt32) (port : UInt16)
  | logger (handle : UInt32) (port : UInt16)
  | data (dev_type : UInt8) (handle : UInt32)
  | command (dev_type : UInt8) (handle : UInt32) (port : UInt16)
  | unknown_command (handle : UInt32) (port : UInt16)
  deriving DecidableEq, Repr

def Handled.is_command : Handled → Bool
  | command .. | unknown_command .. => true
  | _ => false

/-- What `LivoxLidarSdkInit` initializes the device manager with. -/
inductive SdkCfg where
  | view (host_ip : List UInt8)
  | configured (lidars_cfg custom_lidars_cfg : List define.LivoxLidarCfg) (master_sdk : Bool)

/-- The configuration, whether the store path, the logger manager and the handlers can be initialized,
and whether the log is enabled then. -/
structure InitArgs where
  cfg : SdkCfg
  logger_init : Bool
  log_enable : Bool

/-- What `GeneralCommandHandler` keeps: whether it has its `CommPort`, how it has been initialized, its
command handlers, and the handles in `devices_`. -/
structure General where
  comm_port : Bool
  mode : general_command_handler.SdkMode
  commands : general_command_handler.State
  devices : Std.TreeSet UInt32

namespace General

def new : General where
  comm_port := false
  mode := .configured false
  commands := general_command_handler.State.start []
  devices := ∅

/-- `Init` for the viewer. -/
def init_view (g : General) (host_ip : List UInt8) : General :=
  { g with comm_port := true, mode := .view host_ip }

/-- `Init` with a configuration, which stays a viewer's handler when it has its `CommPort` already. -/
def init (g : General) (master_sdk : Bool) : General :=
  let types := [kLivoxLidarTypeIndustrialHAP, kLivoxLidarTypeMid360, kLivoxLidarTypeMid360s,
    kLivoxLidarTypeAvia2]
  let lidars_command_handler := g.commands.lidars_command_handler
  { g with
    comm_port := true
    mode := if g.comm_port then g.mode else .configured master_sdk
    commands :=
      { g.commands with
        lidars_command_handler :=
          lidars_command_handler ++ types.filter (· ∉ lidars_command_handler) } }

/-- `CreateCommandHandler`. -/
def create_command_handler (g : General) (dev_type : UInt8) : Checked General := do
  let commands ← general_command_handler.Detection.create_command_handler g.mode g.commands dev_type
  .ok { g with commands }

end General

/-- The answer of a lidar to a detection broadcast, with the type of its command. -/
structure Answer where
  cmd_type : UInt8
  detection_data : DetectionData

/-- The answer in a datagram, when the lidar reports no error in it. -/
def detection_answer (crc : FastCRC) (datagram : Datagram) : Option Answer :=
  match (parse_comm_stream crc datagram.buf datagram.size).1 with
  | none => none
  | some packet =>
    if packet.cmd_id ≠ kCommandIDLidarSearch then none
    else if packet.data_len = 0 then none
    else if packet.data.u8 0 ≠ 0 then none
    else
      some
        { cmd_type := packet.cmd_type
          detection_data :=
            { ret_code := 0
              dev_type := packet.data.u8 1
              sn := Vector.ofFn fun i => packet.data.u8 (2 + i)
              lidar_ip := Vector.ofFn fun i => packet.data.u8 (18 + i)
              cmd_port := packet.data.u16 22
              behind := [] } }

end device_manager

open device_manager general_command_handler

/-- `DeviceManager` with the calls of the handlers so far, what it has to do with of the general command
handler, whether the logger manager has its thread, and `is_initialized` of the SDK. -/
structure DeviceManager extends ConfigMaps, Channels where
  is_view : Bool
  detection_host_ip : List UInt8
  custom_lidars_cfg_ptr : Option (List define.LivoxLidarCfg)
  sdk_framework_cfg_ptr : Option Bool
  log_enable : Bool
  cycle_delete_thread : Bool
  comm_port : Bool
  detection_thread : Bool
  view_devices : Std.TreeMap UInt32 ViewDevice
  view_lidars_info : Std.TreeMap UInt32 device_manager.ViewLidarIpInfo
  general : General
  is_initialized : Bool
  handled : List Handled

namespace DeviceManager

def new : DeviceManager where
  toChannels := Channels.new
  type_lidars_cfg_map := ∅
  custom_lidars_cfg_map := ∅
  is_view := false
  detection_host_ip := []
  custom_lidars_cfg_ptr := none
  sdk_framework_cfg_ptr := none
  log_enable := false
  cycle_delete_thread := false
  comm_port := false
  detection_thread := false
  view_devices := ∅
  view_lidars_info := ∅
  general := General.new
  is_initialized := false
  handled := []

section Init

variable (kernel : Kernel) (s : DeviceManager)

/-- `LoggerManager::Init` makes its thread anew while the log is enabled. An old one is destroyed, and it
cannot be while it runs. -/
def start_logger (log_enable : Bool) : Checked DeviceManager :=
  if log_enable ∧ s.cycle_delete_thread then .error .precondition
  else .ok { s with cycle_delete_thread := log_enable || s.cycle_delete_thread }

/-- The channels are started, and the thread that detects lidars. -/
def start_channels (create_channels : Channels → Attempt) : Checked (Bool × DeviceManager) := do
  let attempt ← s.toChannels.start kernel s.detection_host_ip create_channels
  .ok
    (attempt.ret,
      { s with
        toChannels := attempt.channels
        detection_thread := attempt.ret || s.detection_thread })

/-- `Init`. -/
def init (args : InitArgs) : Checked (Bool × DeviceManager) :=
  match args.cfg with
  | .view host_ip =>
    let s :=
      { s with
        is_view := true
        detection_host_ip := host_ip
        comm_port := true
        log_enable := args.log_enable }
    if args.logger_init = false then .ok (false, s)
    else do
      let s ← s.start_logger args.log_enable
      let s := { s with general := s.general.init_view host_ip }
      s.start_channels kernel fun c => { ret := true, channels := c }
  | .configured lidars_cfg custom_lidars_cfg master_sdk =>
    let s :=
      { s with
        is_view := false
        custom_lidars_cfg_ptr := some custom_lidars_cfg
        sdk_framework_cfg_ptr := some master_sdk }
    match (lidars_cfg ++ custom_lidars_cfg).head? with
    | none => .ok (false, s)
    | some cfg =>
      let s :=
        { s with
          detection_host_ip := cfg.host_net_info.host_ip
          comm_port := true
          log_enable := args.log_enable }
      if args.logger_init = false then .ok (false, s)
      else do
        let s ← s.start_logger args.log_enable
        let s :=
          { s with
            general := s.general.init master_sdk
            toConfigMaps := s.toConfigMaps.add lidars_cfg custom_lidars_cfg }
        s.start_channels kernel fun c =>
          c.create_lidar_channels kernel master_sdk s.log_enable custom_lidars_cfg

/-- `LivoxLidarSdkInit`. -/
def sdk_init (args : InitArgs) : Checked DeviceManager :=
  if s.is_initialized then .ok s
  else do
    let attempt ← s.init kernel args
    .ok { attempt.2 with is_initialized := attempt.1 }

end Init

section OnData

variable (kernel : Kernel) (crc : FastCRC) (s : DeviceManager) (datagram : Datagram)

def handle (call : Handled) : DeviceManager := { s with handled := s.handled ++ [call] }

/-- The ports of a lidar for debug point clouds and for logs are looked at first. -/
def handle_records : DeviceManager :=
  let s :=
    if datagram.port = kMid360LidarDebugPointCloudPort ∨ datagram.port = kHAPDebugPointCloudPort then
      s.handle (.debug_point_cloud datagram.handle datagram.port)
    else s
  if datagram.port = kHAPLogPort ∨ datagram.port = kPaLidarLogPort ∨
      datagram.port = kMid360LidarLogPort then
    s.handle (.logger datagram.handle datagram.port)
  else s

/-- `HandleDetectionData` for the viewer: a lidar is remembered until its info is there. -/
def handle_detection_data (handle : UInt32) (detection_data : DetectionData) : DeviceManager :=
  if handle = 0 ∨ s.is_view = false then s
  else
    { s with
      view_devices := s.view_devices.insertIfNew handle
        { handle
          cmd_port := detection_data.cmd_port
          dev_type := detection_data.dev_type
          is_get := false
          is_set := false } }

/-- `GeneralCommandHandler::HandleDetectionData`. The framework configuration is read for a device that is
new, by `GetFirmwareType`. For one that is known `UpdateLidarCfg` may read it, but not in the viewer. -/
def general_handle_detection_data (handle : UInt32) (detection_data : DetectionData) :
    Checked DeviceManager := do
  let verified ← Detection.verify_net_segment s.general.mode detection_data
  if verified = false then .ok s
  else
    let general ← s.general.create_command_handler detection_data.dev_type
    if s.sdk_framework_cfg_ptr = none ∧ (handle ∉ general.devices ∨ general.mode.is_view = false) then
      .error null_framework_cfg
    else if handle ∈ general.devices then
      .ok ({ s with general }.handle_detection_data handle detection_data)
    else .ok { s with general := { general with devices := general.devices.insert handle } }

/-- `GeneralCommandHandler::Handler`, as far as it handles the answers to detection broadcasts. -/
def general_handler : Checked DeviceManager :=
  if s.general.comm_port = false then .error .nullDereference
  else if datagram.port ≠ kDetectionPort then .ok s
  else
    match detection_answer crc datagram with
    | none => .ok s
    | some answer =>
      if answer.cmd_type = kCommandTypeCmd then .ok s
      else s.general_handle_detection_data datagram.handle answer.detection_data

/-- The call that `OnData` makes for a datagram in the viewer. -/
def view_call : Handled :=
  match s.view_lidars_info[datagram.handle]? with
  | some info =>
    if datagram.port = info.lidar_point_port ∨ datagram.port = info.lidar_imu_data_port then
      .data info.dev_type datagram.handle
    else .command info.dev_type datagram.handle datagram.port
  | none => .unknown_command datagram.handle datagram.port

/-- The call that `OnData` makes for a datagram of a lidar that has a configuration. -/
def lidar_call (cfg : define.LivoxLidarCfg) : Option Handled :=
  let net := cfg.lidar_net_info
  if datagram.port = net.imu_data_port ∨ datagram.port = net.point_data_port then
    some (.data cfg.device_type datagram.handle)
  else if datagram.port = kDetectionPort ∨ datagram.port = net.cmd_data_port ∨
      datagram.port = net.push_msg_port ∨ datagram.port = net.log_data_port ∨
      datagram.port = kPaLidarFaultPort then
    some (.command cfg.device_type datagram.handle datagram.port)
  else none

/-- A call is made. The commands go to the general command handler. -/
def call (handled : Handled) : Checked DeviceManager :=
  if handled.is_command then (s.handle handled).general_handler crc datagram
  else .ok (s.handle handled)

/-- The configuration of a type of device under the address of a lidar. -/
def lidar_cfg (cfg : define.LivoxLidarCfg) : define.LivoxLidarCfg :=
  { cfg with lidar_net_info := { cfg.lidar_net_info with lidar_ipaddr := datagram.lidar_ip } }

/-- A lidar that is not configured gets the configuration of its type. The channels of all lidars are
gone through again. -/
def register_lidar : Checked DeviceManager :=
  if datagram.port ≠ kDetectionPort then .ok s
  else if s.comm_port = false then .error .nullDereference
  else
    match detection_answer crc datagram with
    | none => .ok s
    | some answer =>
      let dev_type := answer.detection_data.dev_type
      match s.type_lidars_cfg_map[dev_type]?, s.custom_lidars_cfg_ptr, s.sdk_framework_cfg_ptr with
      | none, _, _ => .ok s
      | some cfg, some custom_lidars_cfg, some master_sdk => do
        let cfg := lidar_cfg datagram cfg
        let custom_lidars_cfg := custom_lidars_cfg ++ [cfg]
        let general ← (s.general.init master_sdk).create_command_handler dev_type
        if s.has_io_threads = false then .error null_io_thread
        else
          let attempt :=
            s.toChannels.create_lidar_channels kernel master_sdk s.log_enable custom_lidars_cfg
          .ok
            { s with
              type_lidars_cfg_map := s.type_lidars_cfg_map.insert dev_type cfg
              custom_lidars_cfg_map := s.custom_lidars_cfg_map.insert datagram.handle cfg
              custom_lidars_cfg_ptr := some custom_lidars_cfg
              general
              toChannels := attempt.channels }
      | some _, _, _ => .error .nullDereference

/-- `OnData` of a datagram, which may be empty. -/
def on_data : Checked DeviceManager :=
  if datagram.size = 0 then .ok s
  else if datagram.lidar_ip = s.detection_host_ip then .ok s
  else
    let s := s.handle_records datagram
    if s.is_view then s.call crc datagram (s.view_call datagram)
    else
      match s.custom_lidars_cfg_map[datagram.handle]? with
      | some cfg =>
        match lidar_call datagram cfg with
        | some handled => s.call crc datagram handled
        | none => .ok s
      | none => s.register_lidar kernel crc datagram

/-- `AddViewLidar` with the info that its loop has made for a lidar. -/
def add_view_lidar (info : device_manager.ViewLidarIpInfo) : Checked DeviceManager :=
  match s.view_devices[info.handle]? with
  | none => .ok s
  | some view_device =>
    if view_device.is_get then .ok s
    else if s.has_io_threads = false then .error null_io_thread
    else
      let info := { info with host_ip := s.detection_host_ip }
      -- `UpdateLidarCfg` comes last
      if (s.general.commands.get_lidar_command_handler info.dev_type).isSome ∧
          s.sdk_framework_cfg_ptr = none then .error null_framework_cfg
      else
        .ok
          { s with
            toChannels := (s.toChannels.create_view_data_channel kernel info).channels
            view_lidars_info := s.view_lidars_info.insert info.handle info
            view_devices := s.view_devices.insert info.handle { view_device with is_get := true } }

end OnData

section Destory

variable (s : DeviceManager)

/-- `Destory`. -/
def destory : Checked DeviceManager := do
  let channels ← s.toChannels.destory s.detection_thread
  .ok
    { new with
      toChannels := channels
      sdk_framework_cfg_ptr := s.sdk_framework_cfg_ptr
      log_enable := s.log_enable
      cycle_delete_thread := s.cycle_delete_thread
      general := s.general
      is_initialized := s.is_initialized
      handled := s.handled }

/-- `LivoxLidarSdkUninit`, which destroys the logger manager before the device manager, and the handlers
behind it. -/
def sdk_uninit : Checked DeviceManager :=
  if s.is_initialized = false then .ok s
  else do
    let s ← { s with cycle_delete_thread := false }.destory
    .ok { s with general := General.new, is_initialized := false }

/-- `GetCmdChannel` and `GetLoggerCmdChannel` with the port that is theirs. -/
def get_channel (port : define.HostNetInfo → UInt16) (handle : UInt32) : Option Int :=
  match s.custom_lidars_cfg_map[handle]? with
  | some cfg =>
    s.custom_command_channel[channel_key cfg.host_net_info.host_ip (port cfg.host_net_info)]?
  | none => none

def get_cmd_channel : UInt32 → Option Int := s.get_channel (·.cmd_data_port)

def get_logger_cmd_channel : UInt32 → Option Int := s.get_channel (·.log_data_port)

/-- The socket that `SendCommand` sends through. -/
def send_command_socket (handle : UInt32) : Int :=
  (s.get_cmd_channel handle).getD s.detection_socket

/-- The socket that `SendLoggerCommand` sends through. -/
def send_logger_command_socket (handle : UInt32) : Int :=
  (s.get_logger_cmd_channel handle).getD s.detection_socket

end Destory

end DeviceManager

/-- The SDK is initialized or ended; a loop calls the manager for a socket, at which a datagram has
arrived, or the answer that the info of a lidar in the viewer is made of. -/
inductive SdkEvent where
  | sdk_init (args : InitArgs)
  | on_data (sock : Int) (datagram : Datagram)
  | add_view_lidar (sock : Int) (info : device_manager.ViewLidarIpInfo)
  | sdk_uninit

/-- Each call is one step, before which the loops have run the tasks that were posted. What the handlers
of data, logs and debug point clouds do with a datagram is left to them, and what a handler does with a
command that is no answer to a broadcast. -/
def DeviceManager.step (kernel : Kernel) (crc : FastCRC) (s : DeviceManager) :
    SdkEvent → Checked DeviceManager
  | .sdk_init args => s.sdk_init kernel args
  | .on_data sock datagram =>
    if s.Delegated sock ∧ sock ∈ s.process.sockets then s.on_data kernel crc datagram else .ok s
  | .add_view_lidar sock info =>
    if s.Delegated sock ∧ sock ∈ s.process.sockets then s.add_view_lidar kernel info else .ok s
  | .sdk_uninit => s.sdk_uninit

end livox_lidar
