import Livox.Library.OrderedMap
import Livox.Sdk.GeneralCommandHandler.Devices
import Livox.Sdk.LoggerHandler
import Livox.Sdk.ParseCfgFile
import Livox.Sdk.ParseLidarStateInfo

open checked memory

namespace livox_lidar

def kCommandIDLidarPushLog : UInt16 := 0x0300

def kMaxExceptionLogCachSizeMb : UInt64 := 200
def kExceptionLogCacheRatio : UInt64 := 1
def kRealtimeLogCacheRatio : UInt64 := 3

def kLivoxLidarRealTimeLog : UInt8 := 0

structure LidarDeviceInfo where
  sn : List UInt8
  dev_type : UInt8
  lidar_ip : String
  cmd_port : UInt16

structure EnableDeviceLoggerRequest where
  log_type : UInt8
  enable : Bool
  deriving DecidableEq, Repr

structure DeviceLoggerFilePushReponse where
  ret_code : UInt8
  log_type : UInt8
  file_index : UInt8
  trans_index : UInt32
  deriving DecidableEq, Repr

/-- What is handed to `SendLoggerCommand`: `kCommandIDLidarCollectionLog` with its request, or
`kCommandIDLidarPushLog` with the answer to a message. -/
inductive LoggerCommand where
  | collection_log (request : EnableDeviceLoggerRequest)
  | push_log (response : DeviceLoggerFilePushReponse)
  deriving DecidableEq, Repr

/-- `handlers` has a pointer for each device, which may be null; `comm_port` says whether there is a
parser, and `sent` has the commands with the devices that they are for. -/
structure LoggerManager where
  log_enable : Bool
  log_cycle_delete_enable : Bool
  log_root_path : List UInt8
  max_realtimelog_cache_size : UInt64
  max_exceptionlog_cache_size : UInt64
  comm_port : Bool
  cond : Bool
  devices_info : Std.TreeMap UInt32 LidarDeviceInfo
  handlers : Std.TreeMap UInt32 (Option LoggerHandler)
  is_destroy : Bool
  sent : List (UInt32 × LoggerCommand)

/-- A string of bytes as text. -/
def text (bytes : List UInt8) : String := String.ofList (bytes.map fun b => Char.ofNat b.toNat)

/-- Follow a pointer. -/
def deref {α : Type} : Option α → Checked α
  | some object => .ok object
  | none => .error .nullDereference

namespace logger_manager

/-! The fields of the packed `DeviceLoggerFilePushRequest` at their places in the payload. -/

def read_u8 (packet : CommPacket) (offset : UInt16) : Checked UInt8 :=
  (packet.read offset 1).map fun b => UInt8.ofNat (value b)

def read_u32 (packet : CommPacket) (offset : UInt16) : Checked UInt32 :=
  (packet.read offset 4).map fun b => UInt32.ofNat (value b)

def log_type (packet : CommPacket) : Checked UInt8 := read_u8 packet 0
def file_index (packet : CommPacket) : Checked UInt8 := read_u8 packet 1
def flag (packet : CommPacket) : Checked UInt8 := read_u8 packet 3
def trans_index (packet : CommPacket) : Checked UInt32 := read_u32 packet 10
def data_length (packet : CommPacket) : Checked UInt16 := packet.read_u16 14

/-- The message as `StoreLogBag` copies it. -/
def request (packet : CommPacket) (flag : UInt8) : Checked DeviceLoggerFilePushRequest := do
  let data_length ← data_length packet
  let log_type ← log_type packet
  let file_index ← file_index packet
  let trans_index ← trans_index packet
  let data ← packet.read 16 data_length.toNat
  .ok { log_type, file_index, flag, trans_index, data }

end logger_manager

namespace LoggerManager

open logger_manager

def new : LoggerManager where
  log_enable := false
  log_cycle_delete_enable := false
  log_root_path := [46, 47]
  max_realtimelog_cache_size := 150 * 1024 * 1024
  max_exceptionlog_cache_size := 50 * 1024 * 1024
  comm_port := false
  cond := false
  devices_info := ∅
  handlers := ∅
  is_destroy := false
  sent := []

/-- `InitLoggerSavePath`; `made` says that the directory is there or could be made. -/
def init_logger_save_path (s : LoggerManager) (log_root_path : List UInt8) (made : Bool) :
    Bool × LoggerManager :=
  let log_root_dir := log_root_path ++ (if log_root_path.getLast? = some 47 then [] else [47]) ++
    [108, 105, 100, 97, 114, 95, 108, 111, 103, 47]
  if made then (true, { s with log_root_path := log_root_dir }) else (false, s)

/-- `Init`, which names the hidden files anew before it starts the thread that deletes. -/
def init (s : LoggerManager) (lidar_logger_cfg : Option LivoxLidarLoggerCfg) (made : Bool) :
    Bool × LoggerManager :=
  let s := { s with is_destroy := false }
  match lidar_logger_cfg with
  | none => (true, { s with log_enable := false })
  | some cfg =>
    if cfg.lidar_log_enable = false then (true, { s with log_enable := false })
    else if cfg.lidar_log_cache_size = 0 ∨ cfg.lidar_log_cache_size > 1000000000 then
      (true, { s with log_enable := false })
    else
      let size := cfg.lidar_log_cache_size
      let ratio := kExceptionLogCacheRatio + kRealtimeLogCacheRatio
      let s := { s with comm_port := true, log_enable := true }
      let s :=
        if size > kMaxExceptionLogCachSizeMb * ratio / kExceptionLogCacheRatio then
          { s with
            max_exceptionlog_cache_size := kMaxExceptionLogCachSizeMb * 1024 * 1024
            max_realtimelog_cache_size := (size - kMaxExceptionLogCachSizeMb) * 1024 * 1024 }
        else
          { s with
            max_realtimelog_cache_size := size * kRealtimeLogCacheRatio / ratio * 1024 * 1024
            max_exceptionlog_cache_size := size * kExceptionLogCacheRatio / ratio * 1024 * 1024 }
      match s.init_logger_save_path cfg.lidar_log_path made with
      | (true, s) => (true, { s with log_cycle_delete_enable := true })
      | (false, s) => (false, s)

def add_device (s : LoggerManager) (handle : UInt32) (detection_data : DetectionData) :
    Checked LoggerManager :=
  if handle ∈ s.devices_info then .ok s
  else do
    let sn ← detection_data.sn_string
    let info : LidarDeviceInfo :=
      { sn, dev_type := detection_data.dev_type, lidar_ip := detection_data.lidar_ip_string
        cmd_port := detection_data.cmd_port }
    .ok { s with devices_info := s.devices_info.insert handle info }

def remove_device (s : LoggerManager) (handle : UInt32) : LoggerManager :=
  if handle ∈ s.devices_info then { s with devices_info := s.devices_info.erase handle } else s

/-- `SendLoggerCommand`, whose status the callers return. -/
def send_logger_command (s : LoggerManager) (handle : UInt32) (command : LoggerCommand) :
    LoggerManager :=
  { s with sent := s.sent ++ [(handle, command)] }

/-- The handler that `StartLogger` and `OnLoggerCreate` make for a device without one. -/
def make_handler (s : LoggerManager) (handle : UInt32) : LoggerManager :=
  if handle ∈ s.handlers then s
  else
    match s.devices_info[handle]? with
    | some info =>
      let handler := LoggerHandler.new (text s.log_root_path) (text info.sn)
      { s with handlers := s.handlers.insert handle (some handler) }
    | none => s

def start_logger (s : LoggerManager) (handle : UInt32) (log_type : UInt8) : LoggerManager :=
  if s.log_enable = false then s
  else
    (s.make_handler handle).send_logger_command handle (.collection_log { log_type, enable := true })

def stop_logger (s : LoggerManager) (handle : UInt32) (log_type : UInt8) : LoggerManager :=
  s.send_logger_command handle (.collection_log { log_type, enable := false })

/-- `handlers_[handle]->StoreLogBag`, where the map makes up a null pointer. -/
def store_log_bag (s : LoggerManager) (handle : UInt32) (packet : CommPacket) (flag : UInt8)
    (purpose : Flag) : Checked LoggerManager := do
  let handler ← deref ((s.handlers[handle]?).getD none)
  let req ← request packet flag
  .ok { s with handlers := s.handlers.insert handle (some (handler.store_log_bag req purpose)) }

def on_logger_create (s : LoggerManager) (handle : UInt32) (packet : CommPacket) (flag : UInt8) :
    Checked LoggerManager :=
  (s.make_handler handle).store_log_bag handle packet flag .kCreateFile

/-- Without a handler the log type is reported. -/
def on_logger_stopped (s : LoggerManager) (handle : UInt32) (packet : CommPacket) (flag : UInt8) :
    Checked LoggerManager :=
  if handle ∈ s.handlers then
    (s.store_log_bag handle packet flag .kEndFile).map fun s => { s with cond := true }
  else (log_type packet).map fun _ => s

def on_logger_transfer (s : LoggerManager) (handle : UInt32) (packet : CommPacket) (flag : UInt8) :
    Checked LoggerManager :=
  if handle ∈ s.handlers then s.store_log_bag handle packet flag .kTransferData
  else (log_type packet).map fun _ => s

/-- The answer that the device asks for with the lowest bit of the flag. -/
def acknowledge (s : LoggerManager) (handle : UInt32) (packet : CommPacket) (flag : UInt8) :
    Checked LoggerManager :=
  if flag &&& 1 ≠ 0 then do
    let log_type ← log_type packet
    let file_index ← file_index packet
    let trans_index ← trans_index packet
    .ok (s.send_logger_command handle (.push_log { ret_code := 0, log_type, file_index, trans_index }))
  else .ok s

/-- `Handler` behind the parser. -/
def push_log (s : LoggerManager) (handle : UInt32) (packet : CommPacket) : Checked LoggerManager := do
  let flag ← flag packet
  let s ← s.acknowledge handle packet flag
  if flag &&& ((1 : UInt8) <<< 1) ≠ 0 then s.on_logger_create handle packet flag
  else if flag &&& ((1 : UInt8) <<< 2) ≠ 0 then s.on_logger_stopped handle packet flag
  else s.on_logger_transfer handle packet flag

/-- The packet that `Handler` does not turn away. -/
def pushed (s : LoggerManager) (crc : FastCRC) (buf : Option Pointer) (buf_size : UInt32) :
    Checked (Option CommPacket) :=
  if s.log_enable = false then .ok none
  else
    match buf with
    | none => .ok none
    | some buf =>
      if buf_size = 0 then .ok none
      else if s.comm_port = false then .error .nullDereference
      else
        .ok ((parse_comm_stream crc buf buf_size).1.filter fun packet =>
          packet.cmd_id = kCommandIDLidarPushLog)

def handler (s : LoggerManager) (crc : FastCRC) (handle : UInt32) (buf : Option Pointer)
    (buf_size : UInt32) : Checked LoggerManager := do
  match ← s.pushed crc buf buf_size with
  | some packet => s.push_log handle packet
  | none => .ok s

/-- `StopAllLogger`. -/
def stop_all_logger (s : LoggerManager) : LoggerManager :=
  if s.log_enable = false then s
  else s.devices_info.keys.foldl (fun s handle => s.stop_logger handle kLivoxLidarRealTimeLog) s

/-- `Destory`, which lets every handler close its files before it drops it. -/
def destory (s : LoggerManager) : Checked LoggerManager :=
  if s.is_destroy then .ok s
  else if s.handlers.values.any Option.isNone then .error .nullDereference
  else
    let s := { s with log_cycle_delete_enable := false, cond := true, handlers := ∅ }
    .ok { s.stop_all_logger with log_enable := false, is_destroy := true }

/-- The thread of a handler moves on. -/
def save_to_file (s : LoggerManager) (handle : UInt32) (e : LoggerEvent) : Checked LoggerManager :=
  match s.handlers[handle]? with
  | some (some handler) => do
    let handler ← handler.step e
    .ok { s with handlers := s.handlers.insert handle (some handler) }
  | _ => .ok s

end LoggerManager

/-- What the rest of the SDK calls, and the threads of the handlers. -/
inductive LoggerManagerEvent where
  | init (lidar_logger_cfg : Option LivoxLidarLoggerCfg) (made : Bool)
  | add_device (handle : UInt32) (detection_data : DetectionData)
  | remove_device (handle : UInt32)
  | start_logger (handle : UInt32) (log_type : UInt8)
  | stop_logger (handle : UInt32) (log_type : UInt8)
  | handler (handle : UInt32) (buf : Option Pointer) (buf_size : UInt32)
  | swap (handle : UInt32)
  | write (handle : UInt32) (file_system : FileSystem)
  | destory

def LoggerManager.step (crc : FastCRC) (s : LoggerManager) : LoggerManagerEvent → Checked LoggerManager
  | .init lidar_logger_cfg made => .ok (s.init lidar_logger_cfg made).2
  | .add_device handle detection_data => s.add_device handle detection_data
  | .remove_device handle => .ok (s.remove_device handle)
  | .start_logger handle log_type => .ok (s.start_logger handle log_type)
  | .stop_logger handle log_type => .ok (s.stop_logger handle log_type)
  | .handler handle buf buf_size => s.handler crc handle buf buf_size
  | .swap handle => s.save_to_file handle .swap
  | .write handle file_system => s.save_to_file handle (.write file_system)
  | .destory => s.destory

end livox_lidar
