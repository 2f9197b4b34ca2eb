import Livox.Library.RapidJson
import Livox.Sdk.Define

open checked rapidjson

namespace livox_lidar

structure LivoxLidarLoggerCfg where
  lidar_log_enable : Bool
  lidar_log_cache_size : UInt64
  lidar_log_path : List UInt8
  deriving DecidableEq, Repr

structure LivoxLidarSdkFrameworkCfg where
  master_sdk : Bool
  deriving DecidableEq, Repr

namespace parse_cfg_file

/-- How a function of the reader ends without a result: it returns false, or an accessor has been
called for a value that does not have what it gives. -/
inductive Stop where
  | rejected
  | fault (fault : Fault)
  deriving DecidableEq, Repr

abbrev Parse (α : Type) := Except Stop α

/-- The call of an accessor. -/
def call {α : Type} : Checked α → Parse α
  | .ok a => .ok a
  | .error fault => .error (.fault fault)

section

variable {ρ : Type}

/-- A member that must be there and be an unsigned integer; a field for a port takes its lowest 16
bits. -/
def parse_port (object : Value ρ) (name : String) : Parse UInt16 := do
  if ← call (object.has_member name) then do
    let value ← call (object.member name)
    if value.is_uint then do
      let number ← call value.get_uint
      .ok number.toUInt16
    else .error .rejected
  else .error .rejected

/-- The five ports that a lidar and a host have. -/
structure Ports where
  cmd_data_port : UInt16
  push_msg_port : UInt16
  point_data_port : UInt16
  imu_data_port : UInt16
  log_data_port : UInt16

/-- The ports of `lidar_net_info` and those of a host are read alike. -/
def parse_ports (object : Value ρ) : Parse Ports := do
  let cmd_data_port ← parse_port object "cmd_data_port"
  let push_msg_port ← parse_port object "push_msg_port"
  let point_data_port ← parse_port object "point_data_port"
  let imu_data_port ← parse_port object "imu_data_port"
  let log_data_port ← parse_port object "log_data_port"
  .ok { cmd_data_port, push_msg_port, point_data_port, imu_data_port, log_data_port }

/-- `ParseLidarNetInfo`, into an info with its address. -/
def parse_lidar_net_info (object : Value ρ) (lidar_ipaddr : List UInt8) :
    Parse LivoxLidarNetInfo := do
  if ← call (object.has_member "lidar_net_info") then do
    let lidar_net_info_object ← call (object.member "lidar_net_info")
    if lidar_net_info_object.is_object then do
      let ports ← parse_ports lidar_net_info_object
      .ok
        { lidar_ipaddr
          cmd_data_port := ports.cmd_data_port
          push_msg_port := ports.push_msg_port
          point_data_port := ports.point_data_port
          imu_data_port := ports.imu_data_port
          log_data_port := ports.log_data_port }
    else .error .rejected
  else .error .rejected

/-- A member that may be left out and is a string otherwise. -/
def parse_text (object : Value ρ) (name : String) : Parse (Option (List UInt8)) := do
  if ← call (object.has_member name) then do
    let value ← call (object.member name)
    if value.is_string then do
      let text ← call value.get_string
      .ok (some text)
    else .error .rejected
  else .ok none

/-- `ParseHostNetInfo`. An address of `host_ip` is written over one of `cmd_data_ip`. -/
def parse_host_net_info (host_net_info_object : Value ρ) : Parse define.HostNetInfo := do
  let has_host_ip ← call (host_net_info_object.has_member "host_ip")
  let has_cmd_data_ip ← call (host_net_info_object.has_member "cmd_data_ip")
  if !has_host_ip && !has_cmd_data_ip then .error .rejected
  else do
    let host_ip ← parse_text host_net_info_object "host_ip"
    let cmd_data_ip ← parse_text host_net_info_object "cmd_data_ip"
    let multicast_ip ← parse_text host_net_info_object "multicast_ip"
    let ports ← parse_ports host_net_info_object
    .ok
      { host_ip := host_ip.getD (cmd_data_ip.getD [])
        multicast_ip := multicast_ip.getD []
        cmd_data_port := ports.cmd_data_port
        push_msg_port := ports.push_msg_port
        point_data_port := ports.point_data_port
        imu_data_port := ports.imu_data_port
        log_data_port := ports.log_data_port }

/-- `ParseTypeLidarCfg`, into a configuration with the address of its lidar; `ParseGeneralCfgInfo`
does nothing. -/
def parse_type_lidar_cfg (object host_net_info_object : Value ρ) (device_type : UInt8)
    (lidar_ipaddr : List UInt8) : Parse define.LivoxLidarCfg := do
  let lidar_net_info ← parse_lidar_net_info object lidar_ipaddr
  let host_net_info ← parse_host_net_info host_net_info_object
  .ok { device_type, lidar_net_info, host_net_info }

/-- The two lists that are filled. -/
structure Cfgs where
  lidars_cfg : List define.LivoxLidarCfg
  custom_lidars_cfg : List define.LivoxLidarCfg

def Cfgs.append (cfgs more : Cfgs) : Cfgs where
  lidars_cfg := cfgs.lidars_cfg ++ more.lidars_cfg
  custom_lidars_cfg := cfgs.custom_lidars_cfg ++ more.custom_lidars_cfg

/-- The loop over the `lidar_ip` of a host entry. -/
def parse_lidar_ips (object host_net_info_object : Value ρ) (device_type : UInt8) :
    List (Value ρ) → Parse (List define.LivoxLidarCfg)
  | [] => .ok []
  | lidar_ip :: rest =>
    if lidar_ip.is_string then do
      let lidar_ipaddr ← call lidar_ip.get_string
      let cfg ← parse_type_lidar_cfg object host_net_info_object device_type lidar_ipaddr
      let cfgs ← parse_lidar_ips object host_net_info_object device_type rest
      .ok (cfg :: cfgs)
    else .error .rejected

/-- The configurations of an entry of `host_net_info`, one for all lidars of the type or one for
each address. -/
def parse_host_entry (object host_net_info_object : Value ρ) (device_type : UInt8) :
    Parse Cfgs := do
  let has_lidar_ip ← call (host_net_info_object.has_member "lidar_ip")
  let lidar_ip_arr ←
    if has_lidar_ip then do
      let lidar_ip ← call (host_net_info_object.member "lidar_ip")
      if lidar_ip.is_array then do
        let elements ← call lidar_ip.get_array
        .ok (some elements)
      else .ok none
    else .ok none
  match lidar_ip_arr with
  | none => do
    let cfg ← parse_type_lidar_cfg object host_net_info_object device_type []
    .ok { lidars_cfg := [cfg], custom_lidars_cfg := [] }
  | some lidar_ips => do
    let cfgs ← parse_lidar_ips object host_net_info_object device_type lidar_ips
    .ok { lidars_cfg := [], custom_lidars_cfg := cfgs }

/-- The loop of `ParseNewLidarCfg` over the entries. -/
def parse_new_lidar_cfg (object : Value ρ) (device_type : UInt8) : List (Value ρ) → Parse Cfgs
  | [] => .ok { lidars_cfg := [], custom_lidars_cfg := [] }
  | entry :: rest => do
    let cfgs ← parse_host_entry object entry device_type
    let more ← parse_new_lidar_cfg object device_type rest
    .ok (cfgs.append more)

/-- `ParseOldLidarCfg`. -/
def parse_old_lidar_cfg (object host_net_info_object : Value ρ) (device_type : UInt8) :
    Parse Cfgs := do
  let cfg ← parse_type_lidar_cfg object host_net_info_object device_type []
  .ok { lidars_cfg := [cfg], custom_lidars_cfg := [] }

/-- `ParseLidarCfg`. -/
def parse_lidar_cfg (object : Value ρ) (device_type : UInt8) : Parse Cfgs := do
  if ← call (object.has_member "host_net_info") then do
    let host_net_info_object ← call (object.member "host_net_info")
    if host_net_info_object.is_array then do
      let entries ← call host_net_info_object.get_array
      parse_new_lidar_cfg object device_type entries
    else if host_net_info_object.is_object then
      parse_old_lidar_cfg object host_net_info_object device_type
    else .error .rejected
  else .error .rejected

/-- The block of `Parse` for a section; a section that is no object is passed over. -/
def parse_section (doc : Value ρ) (name : String) (device_type : UInt8) : Parse Cfgs := do
  if ← call (doc.has_member name) then do
    let object ← call (doc.member name)
    if object.is_object then parse_lidar_cfg object device_type
    else .ok { lidars_cfg := [], custom_lidars_cfg := [] }
  else .ok { lidars_cfg := [], custom_lidars_cfg := [] }

/-- `dev_type_map`, in the order in which `Parse` looks for the sections. -/
def dev_type_map : List (String × UInt8) :=
  [("HAP", kLivoxLidarTypeIndustrialHAP), ("MID360", kLivoxLidarTypeMid360),
    ("Mid360s", kLivoxLidarTypeMid360s), ("Avia2", kLivoxLidarTypeAvia2)]

def parse_sections (doc : Value ρ) : List (String × UInt8) → Parse Cfgs
  | [] => .ok { lidars_cfg := [], custom_lidars_cfg := [] }
  | (name, device_type) :: rest => do
    let cfgs ← parse_section doc name device_type
    let more ← parse_sections doc rest
    .ok (cfgs.append more)

/-- A member that must be there and have what `get` gives. -/
def parse_member {α : Type} (doc : Value ρ) (name : String) (is : Value ρ → Bool)
    (get : Value ρ → Checked α) : Parse α := do
  if ← call (doc.has_member name) then do
    let value ← call (doc.member name)
    if is value then call (get value) else .error .rejected
  else .error .rejected

/-- Whether this is the master SDK, which it is when nothing is said. -/
def parse_framework_cfg (doc : Value ρ) : Parse LivoxLidarSdkFrameworkCfg := do
  if ← call (doc.has_member "master_sdk") then do
    let value ← call (doc.member "master_sdk")
    if value.is_bool then do
      let master_sdk ← call value.get_bool
      .ok { master_sdk }
    else .error .rejected
  else .ok { master_sdk := true }

/-- `"./"`. -/
def default_log_path : List UInt8 := [46, 47]

/-- The settings of the log. Without `lidar_log_enable` a path of another type is passed over. -/
def parse_logger_cfg (doc : Value ρ) : Parse LivoxLidarLoggerCfg := do
  if ← call (doc.has_member "lidar_log_enable") then do
    let value ← call (doc.member "lidar_log_enable")
    if value.is_bool then do
      let lidar_log_enable ← call value.get_bool
      let lidar_log_cache_size ← parse_member doc "lidar_log_cache_size_MB" Value.is_uint Value.get_uint
      let lidar_log_path ← parse_member doc "lidar_log_path" Value.is_string Value.get_string
      .ok
        { lidar_log_enable, lidar_log_cache_size := lidar_log_cache_size.toUInt64
          lidar_log_path }
    else .error .rejected
  else do
    let has_path ← call (doc.has_member "lidar_log_path")
    let lidar_log_path ←
      if has_path then do
        let value ← call (doc.member "lidar_log_path")
        if value.is_string then call value.get_string else .ok default_log_path
      else .ok default_log_path
    .ok { lidar_log_enable := false, lidar_log_cache_size := 0, lidar_log_path }

/-- What `Parse` hands out when it returns true. -/
structure ParsedCfg where
  cfgs : Cfgs
  lidar_logger_cfg : LivoxLidarLoggerCfg
  sdk_framework_cfg : LivoxLidarSdkFrameworkCfg

/-- `Parse` of the document in the file. -/
def parse (doc : Value ρ) : Parse ParsedCfg := do
  let sdk_framework_cfg ← parse_framework_cfg doc
  let lidar_logger_cfg ← parse_logger_cfg doc
  let cfgs ← parse_sections doc dev_type_map
  .ok { cfgs, lidar_logger_cfg, sdk_framework_cfg }

end

end parse_cfg_file

end livox_lidar
