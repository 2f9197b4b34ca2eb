import Livox.Sdk.DeviceManager.ViewLidars
import Livox.Sdk.GeneralCommandHandler.Detection
import Livox.Sdk.IOLoop
import Livox.Sdk.NetworkUtil
import Livox.Sdk.ParamsCheck

open checked memory

namespace livox_lidar

open util

def kHostDebugPointCloudPort : UInt16 := 44332
def kHAPLogPort : UInt16 := 59000
def kHAPDebugPointCloudPort : UInt16 := 60000
def kLogPort : UInt16 := 0
def kMid360LidarDebugPointCloudPort : UInt16 := 60301
def kPaLidarLogPort : UInt16 := 1002
def kPaHostFaultPort : UInt16 := 42867

namespace device_manager

/-- `std::to_string` of a port. -/
def port_string (port : UInt16) : List UInt8 :=
  (Nat.toDigits 10 port.toNat).map fun c => UInt8.ofNat c.toNat

/-- The key of a channel: the address, a colon and the port. -/
def channel_key (host_ip : List UInt8) (port : UInt16) : List UInt8 :=
  host_ip ++ 58 :: port_string port

/-- `"255.255.255.255"`. -/
def broadcast_ip : List UInt8 := [50, 53, 53, 46, 50, 53, 53, 46, 50, 53, 53, 46, 50, 53, 53]

/-- The interface that a channel is opened on; `"local"` is any. -/
def netif (host_ip : List UInt8) : List UInt8 :=
  if host_ip = [108, 111, 99, 97, 108] then [] else host_ip

/-- The types of device with a socket of their own for broadcast messages. -/
def has_broadcast_socket (dev_type : UInt8) : Bool :=
  dev_type = kLivoxLidarTypeMid360 ∨ dev_type = kLivoxLidarTypeMid360s ∨
    dev_type = kLivoxLidarTypeAvia2

/-- A task of `AddDelegate` or `RemoveDelegate`, whose delegate is the device manager, with the answer of
`epoll_ctl` to it. -/
abbrev DelegateTask := io_loop.IOLoopTask Unit Unit × Bool

def add_delegate (taken : Bool) (sock : Int) : DelegateTask :=
  (.add_delegate_async sock (some ()) (), taken)

/-- The answer does not matter. -/
def remove_delegate (sock : Int) : DelegateTask := (.remove_delegate_async sock, true)

/-- The sockets in `descriptors_` of a loop that has run these tasks. Beside its pipe the back end takes
`OPEN_MAX_POLL` of them, and `AddDelegateAsync` does not look whether it has taken one. -/
def descriptors (tasks : List DelegateTask) : List Int :=
  tasks.foldl (fun socks (task, taken) =>
    match task with
    | .add_delegate_async sock _ _ =>
      if OPEN_MAX_POLL ≤ socks.length ∨ taken = false ∨ sock ∈ socks then socks else socks ++ [sock]
    | .remove_delegate_async sock => socks.filter (· ≠ sock)) []

/-- A loop that has run these tasks calls the device manager for the socket. -/
def delegates (tasks : List DelegateTask) (sock : Int) : Bool := decide (sock ∈ descriptors tasks)

/-- A pointer to an `IOThread`: null, to one whose `Init` has failed, or to one that was started. -/
inductive IOThread where
  | null
  | failed
  | started
  deriving DecidableEq, Repr

/-- `Join` of a thread that was never started. -/
def null_thread : Fault := .nullField "thread_"

/-- `AddDelegate` or `RemoveDelegate` where there is no thread. -/
def null_io_thread : Fault := .nullField "io_thread_"

/-- A new `IOThread` with its `Init` and `Start`. The one whose place it takes is destroyed first, which
joins it. -/
def replace_io_thread (kernel : Kernel) (old : IOThread) (process : Process) :
    Checked (Bool × IOThread × Process) :=
  if old = .failed then .error null_thread
  else
    let (ret, process) := create_io_thread kernel process
    .ok (ret, if ret then .started else .failed, process)

/-- `GetLidarConfigMap`, which does not empty the maps first. -/
def ConfigMaps.add (maps : ConfigMaps) (lidars_cfg custom_lidars_cfg : List define.LivoxLidarCfg) :
    ConfigMaps where
  type_lidars_cfg_map :=
    lidars_cfg.foldl (fun m cfg => m.insert cfg.device_type cfg) maps.type_lidars_cfg_map
  custom_lidars_cfg_map :=
    custom_lidars_cfg.foldl (fun m cfg => m.insert cfg.handle cfg) maps.custom_lidars_cfg_map

end device_manager

open device_manager

/-- The sockets of `DeviceManager`, those that the process has open, and the tasks that have been posted
to the loops of the three threads. -/
structure Channels where
  detection_socket : Int
  detection_broadcast_socket : Int
  socket_vec : List Int
  vec_broadcast_socket : List Int
  channel_info : Std.TreeMap (List UInt8) Int
  custom_command_channel : Std.TreeMap (List UInt8) Int
  command_channel : Std.TreeSet Int
  data_channel : Std.TreeSet Int
  detection_io_thread : IOThread
  cmd_io_thread : IOThread
  data_io_thread : IOThread
  detection_io : List DelegateTask
  cmd_io : List DelegateTask
  data_io : List DelegateTask
  process : Process

/-- What a function that creates channels returns, and the channels then. -/
structure Attempt where
  ret : Bool
  channels : Channels

/-- A caller goes on when the function has returned true, and returns false otherwise. -/
def Attempt.and_then (attempt : Attempt) (next : Channels → Attempt) : Attempt :=
  if attempt.ret then next attempt.channels else attempt

namespace Channels

def new : Channels where
  detection_socket := 0
  detection_broadcast_socket := 0
  socket_vec := []
  vec_broadcast_socket := []
  channel_info := ∅
  custom_command_channel := ∅
  command_channel := ∅
  data_channel := ∅
  detection_io_thread := .null
  cmd_io_thread := .null
  data_io_thread := .null
  detection_io := []
  cmd_io := []
  data_io := []
  process := { sockets := ∅, calls := 0 }

section Create

variable (kernel : Kernel) (c : Channels)

def add_command_channel (taken : Bool) (process : Process) (key : List UInt8) (sock : Int) : Channels :=
  { c with
    process
    socket_vec := c.socket_vec ++ [sock]
    channel_info := c.channel_info.insert key sock
    command_channel := c.command_channel.insert sock
    custom_command_channel := c.custom_command_channel.insert key sock
    cmd_io := c.cmd_io ++ [add_delegate taken sock] }

def add_data_channel (taken : Bool) (process : Process) (key : List UInt8) (sock : Int) : Channels :=
  { c with
    process
    socket_vec := c.socket_vec ++ [sock]
    channel_info := c.channel_info.insert key sock
    data_channel := c.data_channel.insert sock
    data_io := c.data_io ++ [add_delegate taken sock] }

/-- The sockets of the viewer are not put in `data_channel_`. -/
def add_view_channel (taken : Bool) (process : Process) (key : List UInt8) (sock : Int) : Channels :=
  { c with
    process
    socket_vec := c.socket_vec ++ [sock]
    channel_info := c.channel_info.insert key sock
    data_io := c.data_io ++ [add_delegate taken sock] }

def add_broadcast_socket (taken : Bool) (process : Process) (sock : Int) : Channels :=
  { c with
    process
    vec_broadcast_socket := c.vec_broadcast_socket ++ [sock]
    cmd_io := c.cmd_io ++ [add_delegate taken sock] }

/-- A channel that is there already becomes one that commands are sent through. -/
def share_command_channel (key : List UInt8) (sock : Int) : Channels :=
  if key ∈ c.custom_command_channel then c
  else { c with custom_command_channel := c.custom_command_channel.insert key sock }

/-- `CreateCmdSocketAndAddDelegate`. -/
def create_cmd_socket_and_add_delegate (host_ip : List UInt8) (port : UInt16) : Attempt :=
  if host_ip = [] ∨ port = 0 ∨ port = kLogPort then { ret := true, channels := c }
  else
    let key := channel_key host_ip port
    match c.channel_info[key]? with
    | some sock => { ret := true, channels := c.share_command_channel key sock }
    | none =>
      let (sock, process) := create_socket kernel c.process port true true true (netif host_ip) []
      if sock < 0 then { ret := false, channels := { c with process } }
      else
        { ret := true
          channels :=
            c.add_command_channel (kernel.epoll_ctl process.calls sock) process key sock }

/-- `CreateDataSocketAndAddDelegate`. -/
def create_data_socket_and_add_delegate (host_ip : List UInt8) (port : UInt16)
    (multicast_ip : List UInt8) : Attempt :=
  if host_ip = [] ∨ port = 0 ∨ port = kLogPort ∨ port = kDetectionPort then
    { ret := true, channels := c }
  else
    let key := channel_key host_ip port
    if key ∈ c.channel_info then { ret := true, channels := c }
    else
      let (sock, process) :=
        create_socket kernel c.process port true true false (netif host_ip) multicast_ip
      if sock < 0 then { ret := false, channels := { c with process } }
      else
        { ret := true
          channels := c.add_data_channel (kernel.epoll_ctl process.calls sock) process key sock }

/-- The socket for broadcast messages, which `CreateCommandChannel` opens every time. -/
def create_broadcast_socket (port : UInt16) : Attempt :=
  let (sock, process) := create_socket kernel c.process port true true true broadcast_ip []
  if sock < 0 then { ret := false, channels := { c with process } }
  else
    { ret := true
      channels := c.add_broadcast_socket (kernel.epoll_ctl process.calls sock) process sock }

/-- `CreateDataChannel`. -/
def create_data_channel (host_net_info : define.HostNetInfo) : Attempt :=
  let create := fun (c : Channels) (port : UInt16) =>
    c.create_data_socket_and_add_delegate kernel host_net_info.host_ip port host_net_info.multicast_ip
  (create c host_net_info.point_data_port).and_then fun c =>
  (create c host_net_info.imu_data_port).and_then fun c =>
  create c kHostDebugPointCloudPort

/-- `CreateCommandChannel`. The log has a channel when the logger manager has enabled it. -/
def create_command_channel (master_sdk log_enable : Bool) (dev_type : UInt8)
    (host_net_info : define.HostNetInfo) : Attempt :=
  let create := fun (c : Channels) (needed : Bool) (port : UInt16) =>
    if needed then c.create_cmd_socket_and_add_delegate kernel host_net_info.host_ip port
    else { ret := true, channels := c }
  (create c master_sdk host_net_info.cmd_data_port).and_then fun c =>
  (create c true host_net_info.push_msg_port).and_then fun c =>
  (create c (dev_type = kLivoxLidarTypePA) kPaHostFaultPort).and_then fun c =>
  (if has_broadcast_socket dev_type then c.create_broadcast_socket kernel host_net_info.push_msg_port
    else { ret := true, channels := c }).and_then fun c =>
  create c log_enable host_net_info.log_data_port

/-- The loop of `CreateChannel` and of `OnData` over the lidars. -/
def create_lidar_channels (master_sdk log_enable : Bool) :
    Channels → List define.LivoxLidarCfg → Attempt
  | c, [] => { ret := true, channels := c }
  | c, cfg :: rest =>
    (c.create_data_channel kernel cfg.host_net_info).and_then fun c =>
    (c.create_command_channel kernel master_sdk log_enable cfg.device_type
      cfg.host_net_info).and_then fun c =>
    create_lidar_channels master_sdk log_enable c rest

def create_detection_broadcast_socket : Attempt :=
  let (sock, process) := create_socket kernel c.process kDetectionPort true true true broadcast_ip []
  let c := { c with process, detection_broadcast_socket := sock }
  if sock < 0 then { ret := false, channels := c }
  else
    let taken := kernel.epoll_ctl process.calls sock
    { ret := true, channels := { c with detection_io := c.detection_io ++ [add_delegate taken sock] } }

def create_detection_socket (detection_host_ip : List UInt8) : Attempt :=
  let key := channel_key detection_host_ip kDetectionPort
  let (sock, process) :=
    create_socket kernel c.process kDetectionPort true true true detection_host_ip []
  let c := { c with process, detection_socket := sock }
  if sock < 0 then { ret := false, channels := c }
  else
    let c :=
      { c with
        detection_io := c.detection_io ++ [add_delegate (kernel.epoll_ctl process.calls sock) sock]
        channel_info := c.channel_info.insert key sock }
    { ret := true, channels := c.share_command_channel key sock }

/-- `CreateDetectionChannel`. -/
def create_detection_channel (detection_host_ip : List UInt8) : Attempt :=
  (c.create_detection_broadcast_socket kernel).and_then fun c =>
  c.create_detection_socket kernel detection_host_ip

/-- One of the two channels of `CreateViewDataChannel`. -/
def create_view_socket (host_ip : List UInt8) (port : UInt16) : Attempt :=
  let key := channel_key host_ip port
  if key ∈ c.channel_info then { ret := true, channels := c }
  else
    let (sock, process) := create_socket kernel c.process port true true true host_ip []
    if sock < 0 then { ret := false, channels := { c with process } }
    else
      { ret := true
        channels := c.add_view_channel (kernel.epoll_ctl process.calls sock) process key sock }

/-- `CreateViewDataChannel`. -/
def create_view_data_channel (info : device_manager.ViewLidarIpInfo) : Attempt :=
  (c.create_view_socket kernel info.host_ip info.host_point_port).and_then fun c =>
  c.create_view_socket kernel info.host_ip info.host_imu_data_port

def create_detection_io_thread : Checked Attempt := do
  let (ret, detection_io_thread, process) ← replace_io_thread kernel c.detection_io_thread c.process
  .ok { ret, channels := { c with detection_io_thread, process, detection_io := [] } }

def create_command_io_thread : Checked Attempt := do
  let (ret, cmd_io_thread, process) ← replace_io_thread kernel c.cmd_io_thread c.process
  .ok { ret, channels := { c with cmd_io_thread, process, cmd_io := [] } }

def create_data_io_thread : Checked Attempt := do
  let (ret, data_io_thread, process) ← replace_io_thread kernel c.data_io_thread c.process
  .ok { ret, channels := { c with data_io_thread, process, data_io := [] } }

/-- `CreateIOThread`. A loop ends with its thread, and its tasks with the loop. -/
def create_io_threads : Checked Attempt := do
  let detection ← c.create_detection_io_thread kernel
  if detection.ret = false then .ok detection
  else
    let command ← detection.channels.create_command_io_thread kernel
    if command.ret = false then .ok command
    else command.channels.create_data_io_thread kernel

/-- `Init` from `CreateIOThread` on. -/
def start (detection_host_ip : List UInt8) (create_channels : Channels → Attempt) :
    Checked Attempt := do
  let threads ← c.create_io_threads kernel
  .ok (threads.and_then fun c =>
    (c.create_detection_channel kernel detection_host_ip).and_then create_channels)

end Create

section Remove

variable (c : Channels)

/-- The tasks of `RemoveDelegate` for the sockets of a container. -/
def remove_delegates (socks : List Int) : List DelegateTask :=
  (socks.filter (0 < ·)).map remove_delegate

/-- Close the sockets of a container. -/
def close_socks (process : Process) (socks : List Int) : Checked Process :=
  socks.foldlM close_sock process

/-- The pointers to the threads of the loops, which delegates are added to and removed from. -/
def has_io_threads : Bool :=
  c.detection_io_thread ≠ .null ∧ c.cmd_io_thread ≠ .null ∧ c.data_io_thread ≠ .null

/-- What `Destory` does to the channels. The sockets for the detection are closed when their thread
has been started. -/
def destory (detection_thread : Bool) : Checked Channels :=
  if c.has_io_threads = false then .error null_io_thread
  else do
    let detection_io := c.detection_io ++
      remove_delegates [c.detection_socket, c.detection_broadcast_socket]
    let cmd_io := c.cmd_io ++ remove_delegates c.command_channel.toList ++
      remove_delegates c.vec_broadcast_socket
    let data_io := c.data_io ++ remove_delegates c.data_channel.toList
    let process ← close_socks c.process c.socket_vec
    let process ← close_socks process c.vec_broadcast_socket
    let process ←
      close_socks process
        (if detection_thread then [c.detection_socket, c.detection_broadcast_socket] else [])
    let closed := fun sock : Int => if detection_thread ∧ sock > 0 then -1 else sock
    .ok
      { new with
        detection_socket := closed c.detection_socket
        detection_broadcast_socket := closed c.detection_broadcast_socket
        detection_io_thread := c.detection_io_thread
        cmd_io_thread := c.cmd_io_thread
        data_io_thread := c.data_io_thread
        detection_io
        cmd_io
        data_io
        process }

/-- One of the loops calls the manager for the socket. -/
def Delegated (sock : Int) : Prop :=
  delegates c.detection_io sock ∨ delegates c.cmd_io sock ∨ delegates c.data_io sock

instance (sock : Int) : Decidable (c.Delegated sock) := inferInstanceAs (Decidable (_ ∨ _ ∨ _))

end Remove

end Channels

end livox_lidar
