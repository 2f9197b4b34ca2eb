import Livox.Library.Exec

open checked

namespace livox_lidar

/-- What a log message is for, as `LoggerManager::Handler` stores it. -/
inductive Flag where
  | kNull
  | kCreateFile
  | kEndFile
  | kTransferData
  deriving DecidableEq, Repr

/-- A log message of the device. The data are the `data_length` bytes behind the header. -/
structure DeviceLoggerFilePushRequest where
  log_type : UInt8
  file_index : UInt8
  flag : UInt8
  trans_index : UInt32
  data : List UInt8

/-- The bits of the flag that `LoggerManager::Handler` tells the messages apart by. -/
def DeviceLoggerFilePushRequest.purpose (req : DeviceLoggerFilePushRequest) : Flag :=
  if req.flag &&& ((1 : UInt8) <<< 1) ≠ 0 then .kCreateFile
  else if req.flag &&& ((1 : UInt8) <<< 2) ≠ 0 then .kEndFile
  else .kTransferData

structure WriteBuffer where
  log_type : UInt8
  flag : Flag
  file_index : UInt8
  trans_index : UInt32
  data : List UInt8
  deriving DecidableEq

/-- A log file while it is open, with the bytes that have been written to it since. -/
structure LogFile where
  file_path : String
  log_type : UInt8
  file_index : UInt8
  bytes : List UInt8
  deriving DecidableEq

/-- The file of one log type; `fp` is the open one. -/
structure CurrentFileInfo where
  flag : Flag
  file_index : UInt8
  trans_index : UInt32
  fp : Option LogFile
  file_name : String

/-- An entry that the map makes up. -/
def CurrentFileInfo.default : CurrentFileInfo :=
  { flag := .kNull, file_index := 0, trans_index := 0, fp := none, file_name := "" }

/-- The handler of one device, with the local queue of the `Write` that is running. `closed` are the
files that have been closed, and `received` and `taken` the messages that have been stored and the
ones that `Write` has come to. -/
structure LoggerHandler where
  log_root_path : String
  serial_num : String
  current_files : UInt8 → CurrentFileInfo
  queue : List WriteBuffer
  writing : List WriteBuffer
  closed : List LogFile
  received : List WriteBuffer
  taken : List WriteBuffer

/-- How the file system answers when a file is created: whether there is a directory for it, and
whether it can be opened; with the time that is part of its name. -/
structure FileSystem where
  current_time : String
  directory : Bool
  opened : Bool

namespace LoggerHandler

def new (log_root_path serial_num : String) : LoggerHandler where
  log_root_path := log_root_path
  serial_num := serial_num
  current_files := fun _ => CurrentFileInfo.default
  queue := []
  writing := []
  closed := []
  received := []
  taken := []

def store_log_bag (s : LoggerHandler) (req : DeviceLoggerFilePushRequest) (flag : Flag) :
    LoggerHandler :=
  let write_buff : WriteBuffer :=
    { log_type := req.log_type, flag, file_index := req.file_index
      trans_index := req.trans_index, data := req.data }
  { s with queue := s.queue ++ [write_buff], received := s.received ++ [write_buff] }

def log_branch_path (s : LoggerHandler) (log_type : UInt8) : String :=
  s.log_root_path ++ (if s.log_root_path.toList.getLast? = some '/' then "" else "/") ++ "type_" ++
    toString log_type

def file_name (s : LoggerHandler) (current_time : String) (write_buff : WriteBuffer) : String :=
  current_time ++ "_" ++ s.serial_num ++ "_" ++ toString write_buff.log_type ++ "_" ++
    toString write_buff.file_index ++ ".dat"

/-- Replace the information on the file of a log type. -/
def set_current (s : LoggerHandler) (log_type : UInt8) (info : CurrentFileInfo) : LoggerHandler :=
  { s with current_files := Function.update s.current_files log_type info }

@[simp] theorem set_current_current_files (s : LoggerHandler) (log_type other : UInt8)
    (info : CurrentFileInfo) :
    (s.set_current log_type info).current_files other =
      if other = log_type then info else s.current_files other :=
  Function.update_apply s.current_files log_type info other

/-- `fclose` on the file of a log type, if it is open. -/
def close (s : LoggerHandler) (log_type : UInt8) : LoggerHandler :=
  { s with
    closed := s.closed ++ (s.current_files log_type).fp.toList
    current_files := Function.update s.current_files log_type
      { s.current_files log_type with fp := none } }

/-- Without a directory everything stays as it is; the file that is open is closed otherwise, and
the message is the first block of the new one. -/
def create_file (s : LoggerHandler) (write_buff : WriteBuffer) (file_system : FileSystem) :
    LoggerHandler :=
  if !file_system.directory then s
  else
    let file_name := s.file_name file_system.current_time write_buff
    let file_path := s.log_branch_path write_buff.log_type ++ "/" ++ file_name
    let s := s.close write_buff.log_type
    s.set_current write_buff.log_type
      { flag := write_buff.flag
        file_index := write_buff.file_index
        trans_index := write_buff.trans_index
        file_name := file_name
        fp :=
          if file_system.opened then
            some
              { file_path, log_type := write_buff.log_type, file_index := write_buff.file_index
                bytes := write_buff.data }
          else none }

/-- A message for another file is passed over; one whose index does not follow is written with a
warning. -/
def write_file (s : LoggerHandler) (write_buff : WriteBuffer) : LoggerHandler :=
  let info := s.current_files write_buff.log_type
  if info.file_index ≠ write_buff.file_index then s
  else
    s.set_current write_buff.log_type
      { info with
        flag := write_buff.flag
        trans_index := write_buff.trans_index
        fp := info.fp.map fun file => { file with bytes := file.bytes ++ write_buff.data } }

def stop_file (s : LoggerHandler) (write_buff : WriteBuffer) : LoggerHandler :=
  let s := s.close write_buff.log_type
  s.set_current write_buff.log_type
    { s.current_files write_buff.log_type with
      flag := write_buff.flag
      trans_index := write_buff.trans_index }

/-- The body of the loop of `Write`: a message that is not to create a file is dropped when its
index is below that of the last one. -/
def write_next (s : LoggerHandler) (write_buff : WriteBuffer) (file_system : FileSystem) :
    LoggerHandler :=
  if write_buff.trans_index < (s.current_files write_buff.log_type).trans_index ∧
      write_buff.flag ≠ .kCreateFile then s
  else
    match write_buff.flag with
    | .kCreateFile => s.create_file write_buff file_system
    | .kEndFile => s.stop_file write_buff
    | .kTransferData => s.write_file write_buff
    | .kNull => s

/-- `Destory` closes every file. -/
def destory (s : LoggerHandler) : LoggerHandler :=
  { s with
    closed := s.closed ++
      (List.range 256).filterMap fun log_type => (s.current_files (UInt8.ofNat log_type)).fp
    current_files := fun log_type => { s.current_files log_type with fp := none } }

end LoggerHandler

/-- A message is stored by the receiving thread; the writing thread swaps the queue with its own,
and takes the messages of its own one after the other. -/
inductive LoggerEvent where
  | store (req : DeviceLoggerFilePushRequest)
  | swap
  | write (file_system : FileSystem)
  | destory

/-- An event of the writing thread that is not its next one leaves the state as it is. -/
def LoggerHandler.step (s : LoggerHandler) : LoggerEvent → Checked LoggerHandler
  | .store req => .ok (s.store_log_bag req req.purpose)
  | .swap => if s.writing.isEmpty then .ok { s with writing := s.queue, queue := [] } else .ok s
  | .write file_system =>
    match s.writing with
    | [] => .ok s
    | write_buff :: rest =>
      let s := { s with writing := rest, taken := s.taken ++ [write_buff] }
      .ok (s.write_next write_buff file_system)
  | .destory => .ok s.destory

end livox_lidar
