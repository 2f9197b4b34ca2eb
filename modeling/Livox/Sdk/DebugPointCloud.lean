import Livox.Library.SwapQueue
import Livox.Sdk.LoggerManager
import Livox.Sdk.SdkProtocol

open checked memory swap_queue

namespace livox_lidar

def max_file_size : Nat := 4 * 1024 * 1024 * 1024

/-- `sizeof(LivoxLidarDebugPointCloudFileHeader)`, which is packed. -/
def file_header_size : Nat := 128

/-- What each file holds, under its path. -/
abbrev Files := List UInt8 → List UInt8

/-- `fwrite` to a file that has been opened with `"ab"`: whatever it held stays before what is written. -/
def fwrite (files : Files) (full_path buf : List UInt8) : Files :=
  Function.update files full_path (files full_path ++ buf)

/-- A path, which is a C string, without the slash that it may end with. The last character of an empty
one is looked at, too. -/
def pop_slash (path : List UInt8) : Checked (List UInt8) :=
  match path.getLast? with
  | none => .error .precondition
  | some last => .ok (if last = 47 then path.dropLast else path)

/-- Where the thread of `WriteData` stands: before the test of its loop, in the wait for data, with
a batch to write, or at its end. -/
inductive WriterPlace where
  | loop_test
  | wait
  | write
  | ended
  deriving DecidableEq, Repr

/-- A handler with its thread. `behind_sn` is what stands in memory behind the zero that ends `sn`, and
`full_path` belongs to the file that is open. -/
structure DebugPointCloudHandler where
  handle : UInt32
  sn : List UInt8
  behind_sn : Vector UInt8 15
  dev_type : UInt8
  file_size : Nat
  file_path : List UInt8
  enable : Bool
  data : SwapQueue UInt8
  place : WriterPlace
  full_path : Option (List UInt8)

/-- A file that is open to append to, with the `file_size_` and the files then. -/
structure OpenFile where
  full_path : List UInt8
  file_size : Nat
  files : Files

namespace DebugPointCloudHandler

/-- The constructor, and `Enable(true)`, which starts the thread. -/
def new (handle : UInt32) (sn : List UInt8) (behind_sn : Vector UInt8 15) (dev_type : UInt8)
    (path : List UInt8) : Checked DebugPointCloudHandler := do
  let file_path ← pop_slash path
  .ok
    { handle, sn, behind_sn, dev_type
      file_size := 0
      file_path
      enable := true
      data := SwapQueue.empty UInt8
      place := .loop_test
      full_path := none }

/-- The bytes of `LivoxLidarDebugPointCloudFileHeader`. Sixteen bytes are copied from the serial
number, however long it is. -/
def file_header (crc_16 : FastCRC) (h : DebugPointCloudHandler) : List UInt8 :=
  let summed := [0x01, h.dev_type, 0x01] ++ (h.sn ++ [0] ++ h.behind_sn.toList).take 16 ++
    List.replicate 107 0
  summed ++ bytes 2 (crc_16.ccitt summed).toNat

def file_name (h : DebugPointCloudHandler) (time : String) : String :=
  "lidar_" ++ toString h.handle ++ "_" ++ time ++ ".LivoxDebugPointCloudData"

/-- The path of the file that is opened at this time, which has seconds only. -/
def path_at (h : DebugPointCloudHandler) (time : String) : List UInt8 :=
  h.file_path ++ 47 :: (h.file_name time).toUTF8.data.toList

/-- The file to write to: the first batch opens it, at this time if it can be opened, and appends the
header to whatever a file of that name holds. -/
def open_file (crc_16 : FastCRC) (h : DebugPointCloudHandler) (files : Files)
    (opened : Option String) : Option OpenFile :=
  match h.full_path with
  | some full_path => some { full_path, file_size := h.file_size, files }
  | none => opened.map fun time =>
      { full_path := h.path_at time
        file_size := h.file_size + file_header_size
        files := fwrite files (h.path_at time) (h.file_header crc_16) }

/-- `Enable(false)`. -/
def disable (h : DebugPointCloudHandler) : DebugPointCloudHandler := { h with enable := false }

def store_data (h : DebugPointCloudHandler) : Option (List UInt8) → Bool × DebugPointCloudHandler
  | some buf => (true, { h with data := h.data.post buf })
  | none => (false, h)

/-- The next step of the thread. The wait ends when there is data, when the handler is disabled, or
when it has `timed_out`. -/
def write_data (crc_16 : FastCRC) (h : DebugPointCloudHandler) (files : Files) (timed_out : Bool)
    (opened : Option String) : DebugPointCloudHandler × Files :=
  match h.place with
  | .loop_test => ({ h with place := if h.enable then .wait else .ended }, files)
  | .wait =>
    if h.enable then
      if h.data.pending.isEmpty && !timed_out then (h, files)
      else ({ h with data := h.data.swap, place := .write }, files)
    else ({ h with place := .ended }, files)
  | .write =>
    if h.data.batch.isEmpty then ({ h with place := .loop_test }, files)
    else if max_file_size ≤ h.file_size then ({ h with place := .ended }, files)
    else
      match h.open_file crc_16 files opened with
      | none => ({ h with place := .ended }, files)
      | some file =>
        ({ h with
          full_path := some file.full_path
          file_size := file.file_size + h.data.batch.length
          data := h.data.take_all
          place := .loop_test },
        fwrite file.files file.full_path h.data.batch)
  | .ended => (h, files)

end DebugPointCloudHandler

/-- The manager with the files. `handlers` points to the handlers of the devices, and `objects` has
every handler that has been made. -/
structure DebugPointCloudManager where
  enable : Bool
  path : List UInt8
  devices_info : Std.TreeMap UInt32 LidarDeviceInfo
  handlers : Std.TreeMap UInt32 Nat
  objects : List DebugPointCloudHandler
  files : Files

/-- A detection or a datagram of a lidar, a call of `Enable`, or a step of the thread of a handler.
A thread that opens a file does so at the time `opened`, or not at all. -/
inductive DebugPointCloudEvent where
  | add_device (handle : UInt32) (detection_data : DetectionData)
  | handler (handle : UInt32) (buf : List UInt8) (behind_sn : Vector UInt8 15)
  | enable (enable : Bool) (opened : Nat → Option String)
  | write_data (object : Nat) (timed_out : Bool) (opened : Option String)

namespace DebugPointCloudManager

def new : DebugPointCloudManager where
  enable := false
  path := []
  devices_info := ∅
  handlers := ∅
  objects := []
  files := fun _ => []

def set_store_path (s : DebugPointCloudManager) (path : List UInt8) :
    Checked DebugPointCloudManager := do
  let path ← pop_slash path
  .ok { s with path }

def add_device (s : DebugPointCloudManager) (handle : UInt32) (detection_data : DetectionData) :
    Checked DebugPointCloudManager :=
  if handle ∈ s.devices_info then .ok s
  else do
    let sn ← detection_data.sn_string
    let info : LidarDeviceInfo :=
      { sn, dev_type := detection_data.dev_type, lidar_ip := detection_data.lidar_ip_string
        cmd_port := detection_data.cmd_port }
    .ok { s with devices_info := s.devices_info.insert handle info }

def store_data (s : DebugPointCloudManager) (object : Nat) (buf : List UInt8) :
    DebugPointCloudManager :=
  { s with objects := s.objects.modify object fun h => (h.store_data (some buf)).2 }

/-- `Handler`, which makes the handler of a device at its first datagram. -/
def handler (s : DebugPointCloudManager) (handle : UInt32) (buf : List UInt8)
    (behind_sn : Vector UInt8 15) : Checked DebugPointCloudManager :=
  if s.enable then
    match s.handlers[handle]? with
    | some object => .ok (s.store_data object buf)
    | none =>
      match s.devices_info[handle]? with
      | none => .ok s
      | some info => do
        let made ← DebugPointCloudHandler.new handle info.sn behind_sn info.dev_type s.path
        let t : DebugPointCloudManager :=
          { s with
            handlers := s.handlers.insert handle s.objects.length
            objects := s.objects ++ [made] }
        .ok (t.store_data s.objects.length buf)
  else .ok s

def disable (s : DebugPointCloudManager) (object : Nat) : DebugPointCloudManager :=
  { s with objects := s.objects.modify object DebugPointCloudHandler.disable }

def write_data (crc_16 : FastCRC) (s : DebugPointCloudManager) (object : Nat) (timed_out : Bool)
    (opened : Option String) : DebugPointCloudManager :=
  match s.objects[object]? with
  | none => s
  | some h =>
    let (h, files) := h.write_data crc_16 s.files timed_out opened
    { s with objects := s.objects.set object h, files }

/-- The destructor of a handler disables it and waits for its thread, which ends in two steps. -/
def destroy (crc_16 : FastCRC) (opened : Nat → Option String) (s : DebugPointCloudManager)
    (object : Nat) : DebugPointCloudManager :=
  ((s.disable object).write_data crc_16 object false (opened object)).write_data crc_16 object false
    (opened object)

/-- `Enable`, which disables the handlers of the map and destroys them when it disables. -/
def set_enable (crc_16 : FastCRC) (s : DebugPointCloudManager) (enable : Bool)
    (opened : Nat → Option String) : DebugPointCloudManager :=
  if enable then { s with enable }
  else
    let pointers := s.handlers.toList.map (·.2)
    let disabled := pointers.foldl DebugPointCloudManager.disable { s with enable }
    let cleared := pointers.foldl (destroy crc_16 opened) disabled
    { cleared with handlers := ∅ }

/-- Each call of the manager is one step. -/
def step (crc_16 : FastCRC) (s : DebugPointCloudManager) :
    DebugPointCloudEvent → Checked DebugPointCloudManager
  | .add_device handle detection_data => s.add_device handle detection_data
  | .handler handle buf behind_sn => s.handler handle buf behind_sn
  | .enable enable opened => .ok (s.set_enable crc_16 enable opened)
  | .write_data object timed_out opened => .ok (s.write_data crc_16 object timed_out opened)

end DebugPointCloudManager

end livox_lidar
